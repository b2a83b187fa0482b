import ConnectorHub.AttributeSet
import Mathlib.Data.List.Sort

namespace ConnectorHub

namespace Text

/-- Some name of the list is the name, up to case. -/
def isAmong (name : String) (names : List String) : Bool := names.any (sameName name)

theorem isAmong_iff {name : String} {names : List String} :
    isAmong name names = true ↔ ∃ other ∈ names, fold name = fold other := by
  simp only [isAmong, List.any_eq_true, sameName_iff]

theorem isAmong_congr {name name' : String} {names : List String} (h : fold name = fold name') :
    isAmong name names = isAmong name' names := by
  rw [Bool.eq_iff_iff, isAmong_iff, isAmong_iff, h]

end Text

namespace Keyed

variable {α : Type} {key : α → String} {k : String} {a : α} {xs : List α}

@[simp] theorem find?_nil : find? key k [] = none := rfl

theorem find?_cons_self (h : key a = k) (xs : List α) : find? key k (a :: xs) = some a := by
  simp [find?, h]

theorem find?_cons_ne (h : key a ≠ k) (xs : List α) : find? key k (a :: xs) = find? key k xs := by
  simp [find?, h]

theorem find?_insert (a : α) (xs : List α) (k : String) :
    find? key k (insert key a xs) = if key a = k then some a else find? key k xs := by
  induction xs with
  | nil =>
    by_cases h : key a = k
    · rw [insert, find?_cons_self h, if_pos h]
    · rw [insert, find?_cons_ne h, if_neg h]
  | cons b rest ih =>
    rw [insert]
    split
    · by_cases h : key a = k
      · rw [find?_cons_self h, if_pos h]
      · rw [find?_cons_ne h, if_neg h]
    split
    · next after =>
      by_cases hb : key b = k
      · have ha : key a ≠ k := fun ha => String.lt_irrefl k (by rwa [ha, hb] at after)
        rw [find?_cons_self hb, find?_cons_self hb, if_neg ha]
      · rw [find?_cons_ne hb, find?_cons_ne hb, ih]
    · next notBefore notAfter =>
      have same : key a = key b :=
        String.le_antisymm (String.not_lt.mp notAfter) (String.not_lt.mp notBefore)
      by_cases h : key a = k
      · rw [find?_cons_self h, if_pos h]
      · rw [find?_cons_ne h, if_neg h, find?_cons_ne (same ▸ h)]

/-- Of the elements inserted under a key the last is found. -/
theorem find?_foldl_insert (as xs : List α) (k : String) :
    find? key k (as.foldl (fun acc a => insert key a acc) xs) =
      (find? key k as.reverse).or (find? key k xs) := by
  induction as generalizing xs with
  | nil => rfl
  | cons a as ih =>
    have last : find? key k (as.reverse ++ [a]) =
        (find? key k as.reverse).or (find? key k [a]) := List.find?_append
    rw [List.foldl_cons, ih, find?_insert, List.reverse_cons, last, Option.or_assoc]
    by_cases h : key a = k
    · rw [if_pos h, find?_cons_self h, Option.some_or]
    · rw [if_neg h, find?_cons_ne h, find?_nil, Option.none_or]

theorem find?_eq_some_iff (h : Increasing key xs) :
    find? key k xs = some a ↔ a ∈ xs ∧ key a = k := by
  induction xs with
  | nil => simp
  | cons b rest ih =>
    have later := List.pairwise_cons.mp h
    by_cases hb : key b = k
    · rw [find?_cons_self hb, Option.some.injEq, List.mem_cons]
      refine ⟨fun e => ⟨.inl e.symm, e ▸ hb⟩, fun ⟨mem, ha⟩ => ?_⟩
      rcases mem with rfl | mem
      · rfl
      · exact absurd (later.1 a mem) (by rw [hb, ha]; exact String.lt_irrefl k)
    · rw [find?_cons_ne hb, ih later.2, List.mem_cons]
      refine and_congr_left fun ha => ⟨.inr, fun mem => mem.resolve_left ?_⟩
      rintro rfl
      exact hb ha

/-- Elements in increasing order are determined by which they are. -/
theorem Increasing.eq_of_mem_iff {ys : List α} (hx : Increasing key xs) (hy : Increasing key ys)
    (h : ∀ a, a ∈ xs ↔ a ∈ ys) : xs = ys := by
  have irrefl : Std.Irrefl fun a b => key a < key b := ⟨fun a => String.lt_irrefl (key a)⟩
  have antisymm : Std.Antisymm fun a b => key a < key b :=
    ⟨fun a b hab hba => absurd (String.lt_trans hab hba) (String.lt_irrefl (key a))⟩
  exact List.Pairwise.eq_of_mem_iff hx hy h

end Keyed

namespace AttributeSet

variable {s t : AttributeSet} {a : Attribute} {name : String}

theorem get?_eq_some_iff : s.get? name = some a ↔ a ∈ s.toList ∧ a.key = Text.fold name :=
  Keyed.find?_eq_some_iff s.increasing

theorem get?_name_of_mem (h : a ∈ s.toList) : s.get? a.name = some a :=
  get?_eq_some_iff.mpr ⟨h, rfl⟩

theorem mem_iff_get? : a ∈ s.toList ↔ s.get? a.name = some a :=
  ⟨get?_name_of_mem, fun found => (get?_eq_some_iff.mp found).1⟩

theorem key_of_get? (h : s.get? name = some a) : a.key = Text.fold name :=
  (get?_eq_some_iff.mp h).2

theorem get?_congr {name' : String} (h : Text.fold name = Text.fold name') :
    s.get? name = s.get? name' := by
  rw [get?, h, get?]

theorem get?_insert (s : AttributeSet) (a : Attribute) (name : String) :
    (s.insert a).get? name = if a.key = Text.fold name then some a else s.get? name :=
  Keyed.find?_insert a s.toList _

theorem toList_insertAll (s : AttributeSet) (as : List Attribute) :
    (s.insertAll as).toList =
      as.foldl (fun acc a => Keyed.insert Attribute.key a acc) s.toList := by
  induction as generalizing s with
  | nil => rfl
  | cons a as ih => exact ih (s.insert a)

theorem get?_ofList (as : List Attribute) (name : String) :
    (ofList as).get? name = as.reverse.find? fun a => a.key == Text.fold name := by
  rw [get?, ofList, toList_insertAll, Keyed.find?_foldl_insert]
  exact Option.or_none

theorem mem_ofList {as : List Attribute} (h : a ∈ (ofList as).toList) : a ∈ as := by
  have found := get?_name_of_mem h
  rw [get?_ofList] at found
  exact List.mem_reverse.mp (List.mem_of_find?_eq_some found)

theorem exists_of_mem_map {f : Attribute → Attribute} (h : a ∈ (s.map f).toList) :
    ∃ b ∈ s.toList, f b = a :=
  List.mem_map.mp (mem_ofList h)

/-- Where the attributes of a name that the list holds are one, that is the one found. -/
theorem get?_ofList_eq {as : List Attribute} {found : Option Attribute}
    (held : ∀ a, found = some a → a ∈ as ∧ a.key = Text.fold name)
    (only : ∀ a ∈ as, a.key = Text.fold name → found = some a) :
    (ofList as).get? name = found := by
  rw [get?_ofList]
  cases last : as.reverse.find? fun a => a.key == Text.fold name with
  | none =>
    cases found with
    | none => rfl
    | some a =>
      obtain ⟨mem, key⟩ := held a rfl
      have absent := List.find?_eq_none.mp last a (List.mem_reverse.mpr mem)
      simp [key] at absent
  | some a =>
    have mem := List.mem_reverse.mp (List.mem_of_find?_eq_some last)
    have named := List.find?_some last
    exact (only a mem (by simpa using named)).symm

/-- A change that keeps the names is made under each name by itself. -/
theorem get?_filterMap {f : Attribute → Option Attribute}
    (named : ∀ a b, f a = some b → b.key = a.key) (s : AttributeSet) (name : String) :
    (s.filterMap f).get? name = (s.get? name).bind f := by
  refine get?_ofList_eq (fun b changed => ?_) fun b mem key => ?_
  · obtain ⟨a, found, hab⟩ := Option.bind_eq_some_iff.mp changed
    obtain ⟨mem, key⟩ := get?_eq_some_iff.mp found
    exact ⟨List.mem_filterMap.mpr ⟨a, mem, hab⟩, (named a b hab).trans key⟩
  · obtain ⟨a, mem, hab⟩ := List.mem_filterMap.mp mem
    have found := get?_eq_some_iff.mpr ⟨mem, (named a b hab).symm.trans key⟩
    exact Option.bind_eq_some_iff.mpr ⟨a, found, hab⟩

theorem map_eq_filterMap (f : Attribute → Attribute) (s : AttributeSet) :
    s.map f = s.filterMap fun a => some (f a) := by
  rw [map, filterMap, List.filterMap_eq_map']

theorem get?_map {f : Attribute → Attribute} (named : ∀ a, (f a).key = a.key) (s : AttributeSet)
    (name : String) : (s.map f).get? name = (s.get? name).map f := by
  rw [map_eq_filterMap, get?_filterMap (fun a b h => Option.some.inj h ▸ named a)]
  cases s.get? name <;> rfl

/-- A change that keeps the names keeps the order too. -/
theorem toList_map {f : Attribute → Attribute} (named : ∀ a, (f a).key = a.key) (s : AttributeSet) :
    (s.map f).toList = s.toList.map f := by
  have increasing : Keyed.Increasing Attribute.key (s.toList.map f) :=
    List.pairwise_map.mpr (s.increasing.imp fun {a b} lt => by rwa [named a, named b])
  refine (s.map f).increasing.eq_of_mem_iff increasing fun a => ?_
  rw [mem_iff_get?, get?_map named, Option.map_eq_some_iff, List.mem_map]
  refine exists_congr fun b => ⟨fun ⟨found, hb⟩ => ⟨(get?_eq_some_iff.mp found).1, hb⟩, ?_⟩
  rintro ⟨mem, rfl⟩
  exact ⟨get?_eq_some_iff.mpr ⟨mem, (named b).symm⟩, rfl⟩

theorem get?_select (s : AttributeSet) (names : List String) (name : String) :
    (s.select names).get? name = if Text.isAmong name names then s.get? name else none := by
  refine get?_ofList_eq (fun a found => ?_) fun a mem key => ?_
  · split at found
    · next wanted =>
      obtain ⟨other, mem, same⟩ := Text.isAmong_iff.mp wanted
      have found' : s.get? other = some a := (get?_congr same).symm.trans found
      exact ⟨List.mem_filterMap.mpr ⟨other, mem, found'⟩, key_of_get? found⟩
    · cases found
  · obtain ⟨other, mem, found⟩ := List.mem_filterMap.mp mem
    have same : Text.fold name = Text.fold other := key.symm.trans (key_of_get? found)
    rw [if_pos (Text.isAmong_iff.mpr ⟨other, mem, same⟩), get?_congr same, found]

theorem contains_iff : s.contains name = true ↔ ∃ a ∈ s.toList, a.key = Text.fold name := by
  rw [contains, Option.isSome_iff_exists]
  exact exists_congr fun _ => get?_eq_some_iff

theorem mem_names : name ∈ s.names ↔ ∃ a ∈ s.toList, a.name = name := List.mem_map

theorem isAmong_names (s : AttributeSet) (name : String) :
    Text.isAmong name s.names = s.contains name := by
  rw [Bool.eq_iff_iff, Text.isAmong_iff, contains_iff]
  constructor
  · rintro ⟨other, mem, same⟩
    obtain ⟨a, ha, rfl⟩ := mem_names.mp mem
    exact ⟨a, ha, same.symm⟩
  · rintro ⟨a, ha, key⟩
    exact ⟨a.name, mem_names.mpr ⟨a, ha, rfl⟩, key.symm⟩

/-- Two sets that hold the same under every name are one. -/
theorem ext_get? (h : ∀ name, s.get? name = t.get? name) : s = t := by
  have same : ∀ a, a ∈ s.toList ↔ a ∈ t.toList := by
    intro a
    rw [mem_iff_get?, mem_iff_get?, h]
  cases s
  cases t
  rw [mk.injEq]
  exact Keyed.Increasing.eq_of_mem_iff ‹_› ‹_› same

end AttributeSet

end ConnectorHub
