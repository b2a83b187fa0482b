import ConnectorHub.Proofs.Attributes.Object

namespace ConnectorHub

/-- The names of the first list that are in the second too, up to case. -/
def Text.inBoth (names others : List String) : List String :=
  names.filter fun name => isAmong name others

theorem Text.isAmong_inBoth (name : String) (names others : List String) :
    isAmong name (inBoth names others) = (isAmong name names && isAmong name others) := by
  rw [Bool.eq_iff_iff, Bool.and_eq_true, isAmong_iff, isAmong_iff]
  constructor
  · rintro ⟨other, mem, same⟩
    obtain ⟨hn, ho⟩ := List.mem_filter.mp mem
    exact ⟨⟨other, hn, same⟩, isAmong_congr same ▸ ho⟩
  · rintro ⟨⟨other, hn, same⟩, ho⟩
    exact ⟨other, List.mem_filter.mpr ⟨hn, isAmong_congr same ▸ ho⟩, same⟩

namespace ResourceObject

variable {o p : ResourceObject} {names others : List String}

/-- `p` is what is left of `o` when these names are asked for. The uid is there in any case: as the
object has it, if its attribute is asked for. -/
structure Projected (names : List String) (o p : ResourceObject) : Prop where
  objectClass : p.objectClass = o.objectClass
  uid : p.uid = o.uid
  mem_iff (a : Attribute) : a ∈ p.attributes.toList ↔
    (a ∈ o.attributes.toList ∧ Text.isAmong a.name names = true) ∨
      (Text.isAmong Attribute.uidName names = false ∧ a = o.uid.toAttribute)
  carries : ∃ a ∈ p.attributes.toList, a.isUid = true ∧ a.values = [.text o.uid.value]

theorem mem_project_iff (a : Attribute) : a ∈ (o.project names).attributes.toList ↔
    (a ∈ o.attributes.toList ∧ Text.isAmong a.name names = true) ∨
      (Text.isAmong Attribute.uidName names = false ∧ a = o.uid.toAttribute) := by
  have found : a ∈ (o.project names).attributes.toList ↔ (o.project names).get? a.name = some a :=
    AttributeSet.mem_iff_get?
  have had : a ∈ o.attributes.toList ↔ o.get? a.name = some a := AttributeSet.mem_iff_get?
  rw [found, had, get?_project]
  by_cases asked : Text.isAmong a.name names = true
  · have other : ¬(Text.isAmong Attribute.uidName names = false ∧ a = o.uid.toAttribute) := by
      rintro ⟨unasked, rfl⟩
      exact absurd (unasked.symm.trans asked) Bool.false_ne_true
    simp [asked, other]
  · by_cases named : Text.fold a.name = Text.fold Attribute.uidName
    · have unasked : Text.isAmong Attribute.uidName names = false := by
        rw [← Text.isAmong_congr named]
        exact Bool.eq_false_iff.mpr asked
      simp [asked, named, unasked, eq_comm]
    · have other : a ≠ o.uid.toAttribute := by
        rintro rfl
        exact named rfl
      simp [asked, named, other]

theorem project_project (o : ResourceObject) (names others : List String) :
    (o.project names).project others = o.project (Text.inBoth names others) := by
  refine ext_get? ?_ fun name => ?_
  · rw [objectClass_project, objectClass_project, objectClass_project]
  · rw [get?_project, get?_project, get?_project, uid_project, Text.isAmong_inBoth]
    by_cases asked : Text.isAmong name others = true
    · simp [asked]
    · simp [asked]

/-- A projection leaves what is asked for and the uid, and nothing else. Of two projections one after
the other the names in both their lists are asked for, however these are spelled. -/
theorem project_exact (o : ResourceObject) (names others : List String) :
    o.Projected names (o.project names) ∧
      (o.project names).project others = o.project (Text.inBoth names others) := by
  refine ⟨⟨o.objectClass_project names, o.uid_project names, mem_project_iff, ?_⟩, ?_⟩
  · obtain ⟨a, found, held⟩ := (o.project names).exists_get?_uid
    obtain ⟨mem, key⟩ := AttributeSet.get?_eq_some_iff.mp found
    exact ⟨a, mem, Attribute.isNamed_iff.mpr key, by rw [held, uid_project]⟩
  · exact project_project o names others

end ResourceObject

end ConnectorHub
