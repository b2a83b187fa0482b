import ConnectorHub.Proofs.Attributes.Lookup
import ConnectorHub.Update

namespace ConnectorHub.ValueChange

variable {current : ResourceObject} {a d : Attribute} {name : String}

/-- What takes the place of the values under the name of the delta's attribute `d`. -/
def mergeOne (c : ValueChange) (current : ResourceObject) (d : Attribute) : Option Attribute :=
  match c with
  | add => some (addTo current d)
  | remove => removeFrom current d

theorem mergeOne_of_absent (c : ValueChange) (h : current.get? d.name = none) :
    c.mergeOne current d = match c with
      | add => some d
      | remove => none := by
  cases c <;> simp [mergeOne, addTo, removeFrom, h]

theorem mergeOne_of_present (c : ValueChange) (h : current.get? d.name = some a) :
    c.mergeOne current d = match c with
      | add => some ⟨a.name, a.values ++ d.values⟩
      | remove => some ⟨a.name, a.values.filter fun v => !v.isIn d.values⟩ := by
  cases c <;> simp [mergeOne, addTo, removeFrom, h]

theorem key_mergeOne (c : ValueChange) (h : c.mergeOne current d = some a) : a.key = d.key := by
  cases held : current.get? d.name with
  | none =>
    rw [c.mergeOne_of_absent held] at h
    cases c <;> cases h
    rfl
  | some existing =>
    rw [c.mergeOne_of_present held] at h
    have same : existing.key = d.key := AttributeSet.key_of_get? held
    cases c <;> cases h <;> exact same

theorem get?_merge (c : ValueChange) (current : ResourceObject) (delta : AttributeSet)
    (name : String) :
    (c.merge current delta).get? name = (delta.get? name).bind (c.mergeOne current) := by
  cases c with
  | add =>
    rw [merge, AttributeSet.map_eq_filterMap]
    exact AttributeSet.get?_filterMap (fun _ _ => key_mergeOne add) delta name
  | remove => exact AttributeSet.get?_filterMap (fun _ _ => key_mergeOne remove) delta name

theorem contains_merge (c : ValueChange) (current : ResourceObject) {delta : AttributeSet}
    (h : delta.contains name = false) : (c.merge current delta).contains name = false := by
  have absent : delta.get? name = none := by simpa [AttributeSet.contains] using h
  rw [AttributeSet.contains, get?_merge, absent]
  rfl

end ConnectorHub.ValueChange
