import ConnectorHub.Proofs.Attributes.Lookup

namespace ConnectorHub

namespace Attribute

/-- No two of the attributes have one name. -/
def Distinct (as : List Attribute) : Prop := as.Pairwise fun a b => a.key ≠ b.key

theorem Distinct.nodup_keys {as : List Attribute} (h : Distinct as) : (as.map key).Nodup :=
  List.pairwise_map.mpr h

/-- The first attribute of the list whose name an earlier one has. -/
def FirstRepeat (as : List Attribute) (a : Attribute) : Prop :=
  ∃ before after, as = before ++ a :: after ∧ Distinct before ∧ ∃ b ∈ before, b.key = a.key

theorem FirstRepeat.not_distinct {as : List Attribute} {a : Attribute} (h : FirstRepeat as a) :
    ¬Distinct as := by
  intro distinct
  obtain ⟨before, after, rfl, -, b, hb, same⟩ := h
  have across := (List.pairwise_append.mp distinct).2.2
  exact across b hb a List.mem_cons_self same

end Attribute

namespace AttributeSet

variable {s t : AttributeSet} {as : List Attribute} {e : Error}

theorem distinct_toList (s : AttributeSet) : Attribute.Distinct s.toList :=
  s.increasing.imp String.ne_of_lt

theorem contains_insert (s : AttributeSet) (a : Attribute) (name : String) :
    (s.insert a).contains name = (a.key == Text.fold name || s.contains name) := by
  rw [contains, get?_insert]
  by_cases h : a.key = Text.fold name
  · simp [h]
  · simp [h, contains]

theorem contains_ofList (as : List Attribute) (name : String) :
    (ofList as).contains name = true ↔ ∃ a ∈ as, a.key = Text.fold name := by
  rw [contains, get?_ofList, List.find?_isSome]
  simp

theorem fresh_of_insert {a b : Attribute} (h : (s.insert a).contains b.name = false) :
    a.key ≠ b.key ∧ s.contains b.name = false := by
  rw [contains_insert, Bool.or_eq_false_iff] at h
  exact ⟨beq_eq_false_iff_ne.mp h.1, h.2⟩

/-- Attributes that were all added have names of their own. -/
theorem of_addDistinct_ok (h : s.addDistinct as = .ok t) :
    t = s.insertAll as ∧ Attribute.Distinct as ∧ ∀ a ∈ as, s.contains a.name = false := by
  induction as generalizing s with
  | nil =>
    cases h
    exact ⟨rfl, List.Pairwise.nil, by simp⟩
  | cons a rest ih =>
    rw [addDistinct] at h
    split at h
    · cases h
    · next free =>
      obtain ⟨rfl, distinct, absent⟩ := ih h
      have fresh : ∀ b ∈ rest, a.key ≠ b.key ∧ s.contains b.name = false := by
        intro b hb
        exact fresh_of_insert (absent b hb)
      refine ⟨rfl, List.pairwise_cons.mpr ⟨fun b hb => (fresh b hb).1, distinct⟩, ?_⟩
      intro b hb
      rcases List.mem_cons.mp hb with rfl | hb
      · simpa using free
      · exact (fresh b hb).2

/-- The attribute that could not be added is the first whose name the set or an earlier one has. -/
theorem of_addDistinct_error (h : s.addDistinct as = .error e) :
    ∃ before a after, as = before ++ a :: after ∧ Attribute.Distinct before ∧
      (∀ b ∈ before, s.contains b.name = false) ∧
      (s.contains a.name = true ∨ ∃ b ∈ before, b.key = a.key) ∧
      e = .duplicateAttribute a.name := by
  induction as generalizing s with
  | nil => cases h
  | cons a rest ih =>
    rw [addDistinct] at h
    split at h
    · next taken =>
      cases h
      exact ⟨[], a, rest, rfl, List.Pairwise.nil, by simp, .inl taken, rfl⟩
    · next free =>
      obtain ⟨before, b, after, rfl, distinct, absent, repeated, rfl⟩ := ih h
      have fresh : ∀ c ∈ before, a.key ≠ c.key ∧ s.contains c.name = false := by
        intro c hc
        exact fresh_of_insert (absent c hc)
      refine ⟨a :: before, b, after, rfl, ?_, ?_, ?_, rfl⟩
      · exact List.pairwise_cons.mpr ⟨fun c hc => (fresh c hc).1, distinct⟩
      · intro c hc
        rcases List.mem_cons.mp hc with rfl | hc
        · simpa using free
        · exact (fresh c hc).2
      · rcases repeated with taken | ⟨c, hc, same⟩
        · rw [contains_insert, Bool.or_eq_true] at taken
          refine taken.symm.imp id fun same => ⟨a, List.mem_cons_self, ?_⟩
          exact beq_iff_eq.mp same
        · exact .inr ⟨c, List.mem_cons_of_mem _ hc, same⟩

theorem of_ofDistinct_ok (h : ofDistinct as = .ok t) : t = ofList as ∧ Attribute.Distinct as := by
  obtain ⟨rfl, distinct, -⟩ := of_addDistinct_ok h
  exact ⟨rfl, distinct⟩

theorem of_ofDistinct_error (h : ofDistinct as = .error e) :
    ∃ a, Attribute.FirstRepeat as a ∧ e = .duplicateAttribute a.name := by
  obtain ⟨before, a, after, rfl, distinct, -, repeated, rfl⟩ := of_addDistinct_error h
  have earlier := repeated.resolve_left (by simp [empty, contains, get?, Keyed.find?])
  exact ⟨a, ⟨before, after, rfl, distinct, earlier⟩, rfl⟩

end AttributeSet

end ConnectorHub
