import ConnectorHub.Json.Document
import ConnectorHub.Proofs.Attributes.Lookup

namespace ConnectorHub

namespace Keyed

variable {α β : Type} {key : β → String} (f : α → β)

theorem insert_map (a : α) (as : List α) :
    insert key (f a) (as.map f) = (insert (key ∘ f) a as).map f := by
  induction as with
  | nil => rfl
  | cons b rest ih =>
    simp only [List.map_cons, insert, Function.comp_apply, ih]
    split
    · rfl
    · split <;> rfl

theorem foldl_insert_map (as xs : List α) :
    (as.map f).foldl (fun acc b => insert key b acc) (xs.map f) =
      (as.foldl (fun acc a => insert (key ∘ f) a acc) xs).map f := by
  induction as generalizing xs with
  | nil => rfl
  | cons a as ih => rw [List.map_cons, List.foldl_cons, List.foldl_cons, insert_map, ih]

theorem ofList_map (as : List α) : ofList key (as.map f) = (ofList (key ∘ f) as).map f :=
  foldl_insert_map f as []

/-- Of several elements of one key the last is found. -/
theorem find?_ofList (bs : List β) (k : String) :
    find? key k (ofList key bs) = find? key k bs.reverse := by
  rw [ofList, find?_foldl_insert, find?_nil, Option.or_none]

end Keyed

theorem mapM_map_of_inverse {α β : Type} {read : β → Option α} {write : α → β}
    (inverse : ∀ a, read (write a) = some a) (as : List α) :
    (as.map write).mapM read = some as := by
  rw [List.mapM_map, show read ∘ write = pure from funext inverse]
  exact List.mapM_pure.trans (congrArg some (List.map_id as))

namespace Document

@[simp] theorem text?_text (s : String) : text? (.text s) = some s := rfl

@[simp] theorem bool?_bool (b : Bool) : bool? (.bool b) = some b := rfl

@[simp] theorem fields?_object (fields : Fields) : fields? (.object fields) = some fields := rfl

@[simp] theorem fields?_ofFields (fields : Fields) :
    fields? (.ofFields fields) = some (Keyed.ofList Prod.fst fields) := rfl

@[simp] theorem lookup_ofList (fields : Fields) (name : String) :
    lookup (Keyed.ofList Prod.fst fields) name = lookup fields.reverse name := by
  rw [lookup, Keyed.find?_ofList, lookup]

@[simp] theorem lookup_nil (name : String) : lookup [] name = none := rfl

@[simp] theorem lookup_cons (field : String × Json) (fields : Fields) (name : String) :
    lookup (field :: fields) name = if field.1 = name then some field.2 else lookup fields name := by
  by_cases h : field.1 = name
  · rw [lookup, Keyed.find?_cons_self h, if_pos h, Option.map_some]
  · rw [lookup, Keyed.find?_cons_ne h, if_neg h, lookup]

theorem lookup_insert (field : String × Json) (fields : Fields) (name : String) :
    lookup (Keyed.insert Prod.fst field fields) name =
      if field.1 = name then some field.2 else lookup fields name := by
  rw [lookup, Keyed.find?_insert]
  split <;> rfl

theorem list?_map {α : Type} {read : Json → Option α} {write : α → Json}
    (inverse : ∀ a, read (write a) = some a) (as : List α) :
    list? read (.list (as.map write)) = some as :=
  mapM_map_of_inverse inverse as

theorem list?_texts (names : List String) : list? text? (Json.texts names) = some names :=
  list?_map text?_text names

theorem natBelow?_word {n bound : Nat} (h : n < bound) : natBelow? bound (word n) = some n := by
  rw [word, natBelow?, if_pos ⟨Int.natCast_nonneg n, Int.ofNat_lt.mpr h⟩, Int.toNat_natCast]

theorem word32?_word (n : UInt32) : word32? (word n.toNat) = some n := by
  rw [word32?, natBelow?_word n.toNat_lt_size, Option.map_some, UInt32.ofNat_toNat]

theorem word64?_word (n : UInt64) : word64? (word n.toNat) = some n := by
  rw [word64?, natBelow?_word n.toNat_lt_size, Option.map_some, UInt64.ofNat_toNat]

end Document

end ConnectorHub
