import ConnectorHub.Proofs.Attributes.Normal
import ConnectorHub.Scripted.Rule
import Mathlib

namespace ConnectorHub

namespace Text

@[simp] theorem fold_fold (s : String) : fold (fold s) = fold s := by
  have twice : (s.toList.map Char.toLower).map Char.toLower = s.toList.map Char.toLower := by
    rw [List.map_map]
    exact List.map_congr_left fun c _ => c.toLower_toLower_eq_toLower
  rw [fold, toList_fold, twice, fold]

end Text

namespace Edit

@[simp] theorem onText_fold_onText_fold (v : Value) :
    onText Text.fold (onText Text.fold v) = onText Text.fold v := by
  cases v <;> simp [onText]

end Edit

/-- The rule that brings the texts of some attributes into lower case. They are chosen by their folded
names. -/
def NormalRule.lowering (chosen : String → Bool) : NormalRule := fun _ a =>
  if chosen a.key then Edit.lower.apply a else a

namespace NormalRule

/-- What the rule makes of a value of an attribute, told by the attribute's folded name. -/
def lowered (chosen : String → Bool) (key : String) (v : Value) : Value :=
  if chosen key then Edit.onText Text.fold v else v

theorem lowering_valuewise (oc : ObjectClass) (chosen : String → Bool) :
    (⟨oc, some (lowering chosen)⟩ : Normalizer).Valuewise (lowered chosen) where
  acts a := by
    change (if chosen a.key then Edit.lower.apply a else a) = _
    dsimp only
    split
    · next h =>
      have same : lowered chosen a.key = Edit.onText Text.fold := funext fun _ => if_pos h
      rw [same]
      rfl
    · next h =>
      have same : lowered chosen a.key = id := funext fun _ => if_neg h
      rw [same, List.map_id]
  settled key v := by
    unfold lowered
    split
    · exact Edit.onText_fold_onText_fold v
    · rfl
  uid s := by
    unfold lowered
    split
    · exact ⟨Text.fold s, rfl⟩
    · exact ⟨s, rfl⟩

end NormalRule

namespace EditRule

/-- What the rule makes of a value of an attribute, told by the attribute's folded name. -/
def lowered (name : Option String) (key : String) (v : Value) : Value :=
  if name.all fun n => key == Text.fold n then Edit.onText Text.fold v else v

theorem lower_valuewise (oc : ObjectClass) (name : Option String) :
    (⟨oc, some (normalRule [⟨name, none, .lower⟩])⟩ : Normalizer).Valuewise (lowered name) := by
  have same : normalRule [⟨name, none, .lower⟩] =
      NormalRule.lowering fun key => name.all fun n => key == Text.fold n := by
    funext oc a
    have chosen : (⟨name, none, .lower⟩ : EditRule).applies oc a =
        name.all fun n => a.key == Text.fold n := Bool.and_true _
    rw [NormalRule.lowering, ← chosen]
    rfl
  rw [same]
  exact NormalRule.lowering_valuewise oc _

end EditRule

end ConnectorHub
