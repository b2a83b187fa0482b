import ConnectorHub.Value

namespace ConnectorHub

open Std (TransCmp OrientedCmp LawfulEqCmp)

/-- Of two steps up, the first that is strict decides. -/
theorem cmp_eq_then {α : Type} {cmp : α → α → Ordering} [TransCmp cmp] {a b c : α}
    {first second : Ordering} (hab : cmp a b = first) (hbc : cmp b c = second)
    (up : first.isLE = true) (further : second.isLE = true) : cmp a c = first.then second := by
  cases first with
  | lt => exact TransCmp.lt_of_lt_of_isLE hab (hbc ▸ further)
  | eq => exact (TransCmp.congr_left hab).trans hbc
  | gt => cases up

instance : TransCmp Instant.order :=
  inferInstanceAs (TransCmp (compareLex (compareOn Instant.seconds) (compareOn Instant.nanos)))

instance : LawfulEqCmp Instant.order where
  eq_of_compare {a b} h := by
    obtain ⟨seconds, nanos⟩ := Ordering.then_eq_eq.mp h
    cases a
    cases b
    cases Std.LawfulEqOrd.eq_of_compare seconds
    cases Std.LawfulEqOrd.eq_of_compare nanos
    rfl

/-- The kinds of values that are ordered among themselves alone. -/
def DataType.ordered : List DataType := [string, integer, boolean, binary, datetime]

namespace Value

/-- The two values are of one ordered kind, and this is how they stand in its order. -/
inductive Compares : Value → Value → Ordering → Prop where
  | text {a b : String} {o : Ordering} (h : compare a b = o) : Compares (.text a) (.text b) o
  | integer {a b : Int} {o : Ordering} (h : compare a b = o) : Compares (.integer a) (.integer b) o
  | boolean {a b : Bool} {o : Ordering} (h : compare a b = o) : Compares (.boolean a) (.boolean b) o
  | binary {a b : List UInt8} {o : Ordering} (h : compare a b = o) :
      Compares (.binary a) (.binary b) o
  | instant {a b : Instant} {o : Ordering} (h : a.order b = o) :
      Compares (.instant a) (.instant b) o

variable {u v w : Value} {o first second : Ordering}

theorem compares_of_order? (hu : u.dataType ≠ .float) (hv : v.dataType ≠ .float)
    (h : u.order? v = some o) : u.Compares v o := by
  cases u with
  | text a =>
    cases v with
    | text b => exact .text (Option.some.inj h)
    | _ => cases h
  | integer a =>
    cases v with
    | integer b => exact .integer (Option.some.inj h)
    | real y => exact absurd rfl hv
    | _ => cases h
  | boolean a =>
    cases v with
    | boolean b => exact .boolean (Option.some.inj h)
    | _ => cases h
  | binary a =>
    cases v with
    | binary b => exact .binary (Option.some.inj h)
    | _ => cases h
  | instant a =>
    cases v with
    | instant b => exact .instant (Option.some.inj h)
    | _ => cases h
  | real x => exact absurd rfl hu
  | secret s => cases h
  | document fields => cases h

theorem compares_iff (hu : u.dataType ≠ .float) (hv : v.dataType ≠ .float) :
    u.order? v = some o ↔ u.Compares v o := by
  refine ⟨compares_of_order? hu hv, fun h => ?_⟩
  cases h <;> exact congrArg some ‹_›

theorem isSome_order?_iff (hu : u.dataType ≠ .float) (hv : v.dataType ≠ .float) :
    (u.order? v).isSome = true ↔ u.dataType = v.dataType ∧ u.dataType ∈ DataType.ordered := by
  cases u <;> cases v <;> simp_all [order?, dataType, DataType.ordered]

namespace Compares

theorem swap (h : u.Compares v o) : v.Compares u o.swap := by
  cases h with
  | text h => exact .text (h ▸ OrientedCmp.eq_swap)
  | integer h => exact .integer (h ▸ OrientedCmp.eq_swap)
  | boolean h => exact .boolean (h ▸ OrientedCmp.eq_swap)
  | binary h => exact .binary (h ▸ OrientedCmp.eq_swap)
  | instant h => exact .instant (h ▸ OrientedCmp.eq_swap)

theorem andThen (h : u.Compares v first) (g : v.Compares w second) (up : first.isLE = true)
    (further : second.isLE = true) : u.Compares w (first.then second) := by
  cases h with
  | text h =>
    cases g with
    | text g => exact .text (cmp_eq_then h g up further)
  | integer h =>
    cases g with
    | integer g => exact .integer (cmp_eq_then h g up further)
  | boolean h =>
    cases g with
    | boolean g => exact .boolean (cmp_eq_then h g up further)
  | binary h =>
    cases g with
    | binary g => exact .binary (cmp_eq_then h g up further)
  | instant h =>
    cases g with
    | instant g => exact .instant (cmp_eq_then h g up further)

/-- In every ordered kind only a value itself stands equal to it. -/
theorem eq_iff (h : u.Compares v o) : o = .eq ↔ u.equals v = true := by
  cases h <;> next h => rw [← h, LawfulEqCmp.compare_eq_iff_eq]; exact beq_iff_eq.symm

end Compares

section

variable (hu : u.dataType ≠ .float) (hv : v.dataType ≠ .float)
include hu hv

theorem order?_swap : v.order? u = (u.order? v).map Ordering.swap := by
  cases stands : u.order? v with
  | some o => exact (compares_iff hv hu).mpr ((compares_iff hu hv).mp stands).swap
  | none =>
    refine Option.eq_none_iff_forall_ne_some.mpr fun o reversed => ?_
    have other := (compares_iff hu hv).mpr ((compares_iff hv hu).mp reversed).swap
    cases stands.symm.trans other

theorem order?_trans (hw : w.dataType ≠ .float) (h : u.order? v = some first)
    (g : v.order? w = some second) (up : first.isLE = true) (further : second.isLE = true) :
    u.order? w = some (first.then second) :=
  (compares_iff hu hw).mpr
    (((compares_iff hu hv).mp h).andThen ((compares_iff hv hw).mp g) up further)

theorem order?_eq_iff (h : u.order? v = some o) : o = .eq ↔ u.equals v = true :=
  ((compares_iff hu hv).mp h).eq_iff

end

end Value

end ConnectorHub
