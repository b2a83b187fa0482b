import ConnectorHub.Configuration.Basic
import ConnectorHub.Proofs.Json.Compact

namespace ConnectorHub

open Json (ToldApart)

namespace Keyed

variable {α : Type} {key : α → String}

theorem insert_perm {a : α} {xs : List α} (new : ∀ b ∈ xs, key b ≠ key a) :
    (insert key a xs).Perm (a :: xs) := by
  induction xs with
  | nil => exact List.Perm.refl _
  | cons b rest ih =>
    have later := ih fun c hc => new c (List.mem_cons_of_mem _ hc)
    rw [insert]
    split
    · exact List.Perm.refl _
    · split
      · exact (later.cons b).trans (.swap a b rest)
      · next below above =>
        have same := String.le_antisymm (String.not_lt.mp below) (String.not_lt.mp above)
        exact absurd same (new b List.mem_cons_self)

theorem foldl_insert_perm {xs acc : List α} (apart : ((xs ++ acc).map key).Nodup) :
    (xs.foldl (fun acc a => insert key a acc) acc).Perm (xs ++ acc) := by
  induction xs generalizing acc with
  | nil => exact List.Perm.refl _
  | cons a xs ih =>
    have moved : (xs ++ a :: acc).Perm (a :: xs ++ acc) := List.perm_middle
    have apart' : ((xs ++ a :: acc).map key).Nodup := (moved.map key).nodup_iff.mpr apart
    have new : ∀ b ∈ acc, key b ≠ key a := by
      intro b hb same
      have distinct := (List.nodup_cons.mp apart).1
      exact distinct (same ▸ List.mem_map_of_mem (List.mem_append_right xs hb))
    have inserted : (xs ++ insert key a acc).Perm (xs ++ a :: acc) :=
      (insert_perm new).append_left xs
    exact ((ih ((inserted.map key).nodup_iff.mpr apart')).trans inserted).trans moved

theorem ofList_perm {xs : List α} (apart : (xs.map key).Nodup) : (ofList key xs).Perm xs := by
  have built : (ofList key xs).Perm (xs ++ []) := foldl_insert_perm (by rwa [List.append_nil])
  rwa [List.append_nil] at built

end Keyed

theorem eq_of_perm_of_map_eq {α β : Type} {f : α → β} {xs ys : List α} (h : xs.Perm ys)
    (same : xs.map f = ys.map f) (apart : (xs.map f).Nodup) : xs = ys := by
  induction xs generalizing ys with
  | nil => exact h.nil_eq
  | cons x xs ih =>
    cases ys with
    | nil => exact absurd h.symm (List.not_perm_nil_cons x xs)
    | cons y ys =>
      simp only [List.map_cons, List.cons.injEq] at same
      rw [List.map_cons, List.nodup_cons] at apart
      have first : x = y := by
        rcases List.mem_cons.mp (h.mem_iff.mp List.mem_cons_self) with first | later
        · exact first
        · exact absurd (same.2 ▸ List.mem_map_of_mem later) apart.1
      subst first
      rw [ih (List.perm_cons x |>.mp h) same.2 apart.2]

/-- Objects of the same names, each named once, are known from their fields in order. -/
theorem Json.ofFields_inj {xs ys : List (String × Json)} (h : ofFields xs = ofFields ys)
    (same : xs.map Prod.fst = ys.map Prod.fst) (apart : (xs.map Prod.fst).Nodup) : xs = ys := by
  have ordered : Keyed.ofList Prod.fst xs = Keyed.ofList Prod.fst ys := by
    simpa only [ofFields, Json.object.injEq] using h
  have shuffled : xs.Perm ys :=
    ((Keyed.ofList_perm apart).symm.trans (ordered ▸ .refl _)).trans
      (Keyed.ofList_perm (same ▸ apart))
  exact eq_of_perm_of_map_eq shuffled same apart

theorem PoolSettings.fields_inj {s t : PoolSettings} (h : s.fields = t.fields) : s = t := by
  obtain ⟨maxObjects, maxIdle, minIdle, maxWait, minEvictableIdle⟩ := s
  obtain ⟨maxObjects', maxIdle', minIdle', maxWait', minEvictableIdle'⟩ := t
  simp only [fields, Document.word, List.cons.injEq, Prod.mk.injEq, true_and, and_true,
    Json.integer.injEq, Int.natCast_inj, UInt32.toNat_inj, UInt64.toNat_inj] at h
  obtain ⟨rfl, rfl, rfl, rfl, rfl⟩ := h
  rfl

theorem PoolSettings.toDocument_inj {s t : PoolSettings} (h : s.toDocument = t.toDocument) :
    s = t :=
  fields_inj (Json.ofFields_inj h rfl (by simp [fields]))

namespace Configuration

/-- The reals in the properties; there are no others. -/
def reals (c : Configuration) : List Binary64 := Json.fieldReals c.properties

theorem eq_of_parts {c d : Configuration} (properties : c.properties = d.properties)
    (pooling : c.poolingEnabled = d.poolingEnabled) (pool : c.pool = d.pool) : c = d := by
  cases c
  cases d
  simp_all

theorem toDocument_inj {c d : Configuration} (h : c.toDocument = d.toDocument) : c = d := by
  have same := Json.ofFields_inj h rfl (by simp)
  simp only [List.cons.injEq, Prod.mk.injEq, true_and, and_true, Json.object.injEq,
    Json.bool.injEq] at same
  obtain ⟨properties, pooling, pool⟩ := same
  exact eq_of_parts properties pooling (PoolSettings.toDocument_inj pool)

theorem sharingKey_inj {c d : Configuration} (apart : ToldApart c.reals d.reals)
    (h : c.sharingKey = d.sharingKey) : c = d := by
  have same := Json.compact_inj (by simpa [reals, Json.reals, Json.fieldReals, PoolSettings.fields,
    Document.word] using apart) h
  simp only [Json.object.injEq, List.cons.injEq, Prod.mk.injEq, true_and, and_true,
    Json.bool.injEq] at same
  obtain ⟨properties, pooling, pool⟩ := same
  exact eq_of_parts properties pooling (PoolSettings.fields_inj pool)

/-- Two configurations have one text where they have one document. -/
theorem sharingKey_eq_iff {c d : Configuration} (apart : ToldApart c.reals d.reals) :
    c.sharingKey = d.sharingKey ↔ c.toDocument = d.toDocument :=
  ⟨fun h => congrArg toDocument (sharingKey_inj apart h),
    fun h => congrArg sharingKey (toDocument_inj h)⟩

end Configuration

end ConnectorHub
