import ConnectorHub.Proofs.Attributes.Distinct
import ConnectorHub.Proofs.Attributes.Normal

namespace ConnectorHub

/-- The attribute named as the uid that a built object gets: the last that the steps give. -/
def BuildStep.uidAttribute? (steps : List BuildStep) : Option Attribute :=
  (steps.flatMap BuildStep.attributes).reverse.find? Attribute.isUid

theorem Keyed.filter_key {α : Type} {key : α → String} {xs : List α} (h : Increasing key xs)
    (k : String) : (xs.filter fun a => key a == k) = (find? key k xs).toList := by
  induction xs with
  | nil => rfl
  | cons a rest ih =>
    have later := List.pairwise_cons.mp h
    by_cases named : key a = k
    · have others : (rest.filter fun b => key b == k) = [] := by
        rw [List.filter_eq_nil_iff]
        intro b hb same
        have greater := later.1 b hb
        rw [named, beq_iff_eq.mp same] at greater
        exact String.lt_irrefl k greater
      rw [find?_cons_self named, List.filter_cons, if_pos (by simpa using named), others]
      rfl
    · rw [find?_cons_ne named, List.filter_cons, if_neg (by simpa using named), ih later.2]

namespace AttributeSet

/-- The attribute that is found is the only one named as the uid. -/
theorem filter_isUid (s : AttributeSet) :
    s.toList.filter Attribute.isUid = (s.get? Attribute.uidName).toList :=
  Keyed.filter_key s.increasing _

theorem get?_uid_ofSteps (steps : List BuildStep) :
    (ofList (steps.flatMap BuildStep.attributes)).get? Attribute.uidName =
      BuildStep.uidAttribute? steps :=
  get?_ofList _ _

end AttributeSet

namespace ResourceObject

/-- One attribute is named as the uid and holds it alone, all attributes are of different names, and
the class is as given. -/
structure Sound (objectClass : ObjectClass) (o : ResourceObject) : Prop where
  uid : ∃ a, o.attributes.toList.filter Attribute.isUid = [a] ∧ a.values = [.text o.uid.value]
  distinct : Attribute.Distinct o.attributes.toList
  objectClass : o.objectClass = objectClass

theorem sound (o : ResourceObject) : o.Sound o.objectClass := by
  obtain ⟨a, found, held⟩ := o.exists_get?_uid
  have only : o.attributes.toList.filter Attribute.isUid = [a] :=
    (AttributeSet.filter_isUid _).trans (congrArg Option.toList found)
  exact ⟨⟨a, only, held⟩, o.attributes.distinct_toList, rfl⟩

end ResourceObject

/-- What may become of an object on its way to a caller. -/
inductive Reshaping where
  | normalize (n : Normalizer)
  | project (names : List String)

namespace Reshaping

def apply : Reshaping → ResourceObject → ResourceObject
  | normalize n, o => n.onObject o
  | project names, o => o.project names

def applyAll (changes : List Reshaping) (o : ResourceObject) : ResourceObject :=
  changes.foldl (fun o c => c.apply o) o

theorem sound_apply {oc : ObjectClass} {o : ResourceObject} (c : Reshaping) (h : o.Sound oc) :
    (c.apply o).Sound oc := by
  have kept : (c.apply o).objectClass = o.objectClass := by
    cases c with
    | normalize n =>
      rw [apply, Normalizer.onObject_eq_withAttributes, ResourceObject.objectClass_withAttributes]
    | project names => exact o.objectClass_project names
  have whole := (c.apply o).sound
  rw [kept, h.objectClass] at whole
  exact whole

theorem sound_applyAll {oc : ObjectClass} (changes : List Reshaping) :
    ∀ {o : ResourceObject}, o.Sound oc → (applyAll changes o).Sound oc := by
  induction changes with
  | nil => exact fun h => h
  | cons c rest ih => exact fun h => ih (sound_apply c h)

end Reshaping

/-- Building fails for want of a well-formed uid only, and what is built is sound after any changes.
-/
theorem ResourceObject.built_sound (objectClass : ObjectClass) (steps : List BuildStep)
    (changes : List Reshaping) :
    (∃ o a, ofSteps objectClass steps = .ok o ∧ BuildStep.uidAttribute? steps = some a ∧
        a.values = [.text o.uid.value] ∧ (Reshaping.applyAll changes o).Sound objectClass) ∨
      (∃ a, BuildStep.uidAttribute? steps = some a ∧ (∀ s, a.values ≠ [.text s]) ∧
        ofSteps objectClass steps =
          .error (.invalidObject "uid must carry exactly one string value")) ∨
      BuildStep.uidAttribute? steps = none ∧
        ofSteps objectClass steps = .error (.invalidObject "connector object has no uid") := by
  have last := AttributeSet.get?_uid_ofSteps steps
  unfold ofSteps build
  split
  · next u held =>
    obtain ⟨a, found, values⟩ := AttributeSet.uid?_eq_some_iff.mp held
    have first := sound ⟨objectClass, u, .ofList (steps.flatMap BuildStep.attributes), held⟩
    exact .inl ⟨_, a, rfl, last.symm.trans found, values, Reshaping.sound_applyAll changes first⟩
  · next lost =>
    cases found : BuildStep.uidAttribute? steps with
    | none =>
      rw [found] at last
      exact .inr (.inr ⟨rfl, by simp [AttributeSet.contains, last]⟩)
    | some a =>
      rw [found] at last
      refine .inr (.inl ⟨a, rfl, fun s values => ?_, by simp [AttributeSet.contains, last]⟩)
      have formed := AttributeSet.uid?_eq_some_iff (u := ⟨s⟩).mpr ⟨a, last, values⟩
      rw [lost] at formed
      cases formed

end ConnectorHub
