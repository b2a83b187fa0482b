import ConnectorHub.Proofs.Attributes.Lookup
import ConnectorHub.ResultChain

namespace ConnectorHub

theorem Uid.ofAttribute?_eq_some_iff {a : Attribute} {u : Uid} :
    Uid.ofAttribute? a = some u ↔
      a.key = Text.fold Attribute.uidName ∧ a.values = [.text u.value] := by
  rw [← Attribute.isNamed_iff, ofAttribute?, Attribute.isUid]
  split
  · next named =>
    rw [and_iff_right named]
    split
    · next value held => simp [held, ← Uid.value_inj]
    · next other => simpa using other u.value
  · next unnamed => simp [unnamed]

namespace AttributeSet

theorem uid?_eq_some_iff {s : AttributeSet} {u : Uid} :
    s.uid? = some u ↔
      ∃ a, s.get? Attribute.uidName = some a ∧ a.values = [.text u.value] := by
  rw [uid?, Option.bind_eq_some_iff]
  refine exists_congr fun a => and_congr_right fun found => ?_
  rw [Uid.ofAttribute?_eq_some_iff]
  exact and_iff_right (key_of_get? found)

theorem uid?_congr {s t : AttributeSet}
    (h : (s.get? Attribute.uidName).map Attribute.values =
      (t.get? Attribute.uidName).map Attribute.values) : s.uid? = t.uid? := by
  ext u
  rw [uid?_eq_some_iff, uid?_eq_some_iff, ← Option.map_eq_some_iff, h, Option.map_eq_some_iff]

end AttributeSet

namespace ResourceObject

variable {o p : ResourceObject} {s : AttributeSet} {name : String} {names : List String}

/-- The attribute of the uid, in whatever spelling the object has it. -/
theorem exists_get?_uid (o : ResourceObject) :
    ∃ a, o.get? Attribute.uidName = some a ∧ a.values = [.text o.uid.value] :=
  AttributeSet.uid?_eq_some_iff.mp o.carries_uid

/-- Objects of one class with the same attributes are one. -/
theorem ext_get? (oc : o.objectClass = p.objectClass) (h : ∀ name, o.get? name = p.get? name) :
    o = p := by
  have attributes : o.attributes = p.attributes := AttributeSet.ext_get? h
  have uid : some o.uid = some p.uid := by
    rw [← o.carries_uid, ← p.carries_uid, attributes]
  cases o
  cases p
  simp_all

@[simp] theorem objectClass_withAttributes (o : ResourceObject) (s : AttributeSet) :
    (o.withAttributes s).objectClass = o.objectClass := by
  unfold withAttributes
  split <;> rfl

theorem attributes_withAttributes (o : ResourceObject) (s : AttributeSet) :
    (o.withAttributes s).attributes =
      if s.uid?.isSome then s else s.insert o.uid.toAttribute := by
  unfold withAttributes
  split <;> next held => simp [held]

theorem uid_withAttributes (o : ResourceObject) (s : AttributeSet) :
    (o.withAttributes s).uid = s.uid?.getD o.uid := by
  unfold withAttributes
  split <;> next held => simp [held]

theorem get?_withAttributes (o : ResourceObject) (s : AttributeSet) (name : String) :
    (o.withAttributes s).get? name =
      if s.uid? = none ∧ Text.fold name = Text.fold Attribute.uidName then some o.uid.toAttribute
      else s.get? name := by
  have spelled : o.uid.toAttribute.key = Text.fold Attribute.uidName := rfl
  rw [get?, attributes_withAttributes]
  cases held : s.uid? with
  | some u => simp
  | none =>
    rw [if_neg (by decide), AttributeSet.get?_insert, spelled]
    by_cases named : Text.fold name = Text.fold Attribute.uidName
    · rw [if_pos named.symm, if_pos ⟨rfl, named⟩]
    · rw [if_neg (Ne.symm named), if_neg fun h => named h.2]

theorem get?_withAttributes_of_uid (h : s.uid?.isSome) (name : String) :
    (o.withAttributes s).get? name = s.get? name := by
  rw [get?_withAttributes, if_neg]
  rintro ⟨lost, -⟩
  simp [lost] at h

theorem get?_select (o : ResourceObject) (names : List String) (name : String) :
    (o.attributes.select names).get? name = if Text.isAmong name names then o.get? name else none :=
  AttributeSet.get?_select _ _ _

theorem uid?_select (o : ResourceObject) (names : List String) :
    (o.attributes.select names).uid? =
      if Text.isAmong Attribute.uidName names then some o.uid else none := by
  rw [AttributeSet.uid?, get?_select]
  split
  · exact o.carries_uid
  · rfl

@[simp] theorem objectClass_project (o : ResourceObject) (names : List String) :
    (o.project names).objectClass = o.objectClass :=
  objectClass_withAttributes _ _

@[simp] theorem uid_project (o : ResourceObject) (names : List String) :
    (o.project names).uid = o.uid := by
  rw [project, mapAttributes, uid_withAttributes, uid?_select]
  split <;> rfl

/-- A projection keeps what is asked for, and the uid in its own spelling where it is not. -/
theorem get?_project (o : ResourceObject) (names : List String) (name : String) :
    (o.project names).get? name =
      if Text.isAmong name names then o.get? name
      else if Text.fold name = Text.fold Attribute.uidName then some o.uid.toAttribute
      else none := by
  rw [project, mapAttributes, get?_withAttributes, uid?_select, get?_select]
  by_cases named : Text.fold name = Text.fold Attribute.uidName
  · rw [Text.isAmong_congr named]
    cases Text.isAmong Attribute.uidName names <;> simp [named]
  · simp [named]

theorem get?_project_of_isAmong (h : Text.isAmong name names = true) :
    (o.project names).get? name = o.get? name := by
  rw [get?_project, if_pos h]

@[simp] theorem uid_projectAll (names : Option (List String)) (o : ResourceObject) :
    (projectAll names o).uid = o.uid := by
  cases names with
  | none => rfl
  | some names => exact o.uid_project names

end ResourceObject

end ConnectorHub
