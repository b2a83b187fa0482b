import ConnectorHub.Filter.Accept
import ConnectorHub.Proofs.Values.Order
import Mathlib.Logic.ExistsUnique

namespace ConnectorHub

namespace Comparison

variable {n : String} {u v : Value} {vs : List Value} {o : Ordering} {ok : Ordering → Bool}

/-- The comparison that holds of a value which stands like this to the expected one. -/
def ofOrdering : Ordering → Comparison
  | .lt => lessThan
  | .eq => equals
  | .gt => greaterThan

theorem anyOrdered_single_iff :
    anyOrdered ok (.single n v) vs = true ↔ ∃ u ∈ vs, ∃ o, u.order? v = some o ∧ ok o = true := by
  simp only [anyOrdered, Attribute.single?, Attribute.single, List.any_eq_true, Option.any_eq_true]

theorem anyOrdered_alone (stands : u.order? v = some o) : anyOrdered ok (.single n v) [u] = ok o := by
  rw [anyOrdered]
  simp only [Attribute.single?, Attribute.single, List.any_cons, List.any_nil, Bool.or_false, stands,
    Option.any_some]

end Comparison

namespace Filter

open Comparison (anyOrdered anyOrdered_single_iff anyOrdered_alone)

variable {p : ResourceObject} {n : String} {a : Attribute} {u v : Value} {o : Ordering}

theorem accepts_value (found : p.get? n = some a) (c : Comparison) (v : Value) :
    (value c n v).accepts p = c.holds (.single n v) a.values := by
  have found : p.get? (Attribute.single n v).name = some a := found
  rw [value, compare, accepts, AttributeTest.accepts, found, Option.any_some]

theorem accepts_greaterThanOrEqual_iff (found : p.get? n = some a) (v : Value) :
    (value .greaterThanOrEqual n v).accepts p = true ↔
      (value .greaterThan n v).accepts p = true ∨ ∃ u ∈ a.values, u.order? v = some .eq := by
  rw [accepts_value found, accepts_value found, Comparison.holds, Comparison.holds,
    anyOrdered_single_iff, anyOrdered_single_iff]
  constructor
  · rintro ⟨u, mem, o, stands, notLess⟩
    cases o with
    | lt => cases notLess
    | eq => exact .inr ⟨u, mem, stands⟩
    | gt => exact .inl ⟨u, mem, .gt, stands, rfl⟩
  · rintro (⟨u, mem, o, stands, greater⟩ | ⟨u, mem, stands⟩)
    · rw [eq_of_beq greater] at stands
      exact ⟨u, mem, .gt, stands, rfl⟩
    · exact ⟨u, mem, .eq, stands, rfl⟩

section

variable (found : p.get? n = some a) (alone : a.values = [u]) (stands : u.order? v = some o)
include found alone stands

/-- The single value passes just that test of the three which says how it stands. -/
theorem accepts_ofOrdering_iff (equal : o = .eq ↔ u.equals v = true) (asked : Ordering) :
    (value (.ofOrdering asked) n v).accepts p = true ↔ o = asked := by
  rw [accepts_value found, alone]
  cases asked with
  | lt | gt =>
    rw [Comparison.ofOrdering, Comparison.holds, anyOrdered_alone stands]
    exact beq_iff_eq
  | eq =>
    rw [equal, Comparison.ofOrdering, Comparison.holds]
    simp [Value.listEquals, Attribute.single]

theorem accepts_greaterThanOrEqual_eq :
    (value .greaterThanOrEqual n v).accepts p = !(value .lessThan n v).accepts p := by
  rw [accepts_value found, accepts_value found, alone, Comparison.holds, Comparison.holds,
    anyOrdered_alone stands, anyOrdered_alone stands]
  rfl

theorem accepts_lessThanOrEqual_eq :
    (value .lessThanOrEqual n v).accepts p = !(value .greaterThan n v).accepts p := by
  rw [accepts_value found, accepts_value found, alone, Comparison.holds, Comparison.holds,
    anyOrdered_alone stands, anyOrdered_alone stands]
  rfl

end

end Filter

/-- Values other than reals compare when they are of one ordered kind, and then the order is reversed
with its sides, transitive, and equal for equal values alone. A filter finds a single such value
smaller, equal or greater, and its two weak comparisons are the opposites of the strict ones; whatever
the values, one that is greater or equal is found when a greater one is, or one that stands equal. -/
theorem Value.order_lawful {u v w : Value} (hu : u.dataType ≠ .float) (hv : v.dataType ≠ .float)
    (hw : w.dataType ≠ .float) :
    ((u.order? v).isSome = true ↔ u.dataType = v.dataType ∧ u.dataType ∈ DataType.ordered) ∧
      v.order? u = (u.order? v).map Ordering.swap ∧
      (∀ first second, u.order? v = some first → v.order? w = some second →
        first.isLE = true → second.isLE = true → u.order? w = some (first.then second)) ∧
      (∀ o, u.order? v = some o → (o = .eq ↔ u.equals v = true)) ∧
      ∀ (p : ResourceObject) (n : String) (a : Attribute), p.get? n = some a →
        (a.values = [u] → (u.order? v).isSome = true →
          (∃! o, (Filter.value (.ofOrdering o) n v).accepts p = true) ∧
          (Filter.value .greaterThanOrEqual n v).accepts p =
            !(Filter.value .lessThan n v).accepts p ∧
          (Filter.value .lessThanOrEqual n v).accepts p =
            !(Filter.value .greaterThan n v).accepts p) ∧
        ((Filter.value .greaterThanOrEqual n v).accepts p = true ↔
          (Filter.value .greaterThan n v).accepts p = true ∨
            ∃ x ∈ a.values, x.order? v = some .eq) := by
  refine ⟨isSome_order?_iff hu hv, order?_swap hu hv, fun _ _ h g => order?_trans hu hv hw h g,
    fun o => order?_eq_iff hu hv, fun p n a found => ⟨fun alone compared => ?_, ?_⟩⟩
  · obtain ⟨o, stands⟩ := Option.isSome_iff_exists.mp compared
    have passes := Filter.accepts_ofOrdering_iff found alone stands (order?_eq_iff hu hv stands)
    exact ⟨⟨o, (passes o).mpr rfl, fun asked accepted => ((passes asked).mp accepted).symm⟩,
      Filter.accepts_greaterThanOrEqual_eq found alone stands,
      Filter.accepts_lessThanOrEqual_eq found alone stands⟩
  · exact Filter.accepts_greaterThanOrEqual_iff found v

/-- An account last seen in the first second of all. -/
def earlyAccount : ResourceObject where
  objectClass := .account
  uid := ⟨"7"⟩
  attributes := (AttributeSet.ofList [.single "seen" (.instant ⟨0, 5⟩)]).insert
    (Uid.toAttribute ⟨"7"⟩)
  carries_uid := AttributeSet.uid?_insert_toAttribute _ _

/-- Two nanoseconds decide within a second, and a second decides over all nanoseconds. -/
theorem earlyAccount_order_lawful :
    earlyAccount.get? "Seen" = some (.single "seen" (.instant ⟨0, 5⟩)) ∧
      (Value.instant ⟨0, 7⟩).order? (.instant ⟨0, 5⟩) = some .gt ∧
      (Value.instant ⟨0, 5⟩).order? (.instant ⟨1, 0⟩) = some .lt ∧
      (∃! o, (Filter.value (.ofOrdering o) "Seen" (.instant ⟨0, 7⟩)).accepts earlyAccount = true) ∧
      (Filter.value .greaterThanOrEqual "Seen" (.instant ⟨0, 7⟩)).accepts earlyAccount = false := by
  have found : earlyAccount.get? "Seen" = some (.single "seen" (.instant ⟨0, 5⟩)) := by
    decide +kernel
  obtain ⟨-, swapped, chained, -, filtered⟩ := @Value.order_lawful (.instant ⟨0, 5⟩)
    (.instant ⟨0, 7⟩) (.instant ⟨1, 0⟩) (by decide) (by decide) (by decide)
  obtain ⟨single, opposite, -⟩ := (filtered earlyAccount "Seen" _ found).1 rfl rfl
  have smaller : (Filter.value .lessThan "Seen" (.instant ⟨0, 7⟩)).accepts earlyAccount = true := by
    decide +kernel
  exact ⟨found, swapped, chained .lt .lt rfl rfl rfl rfl, single, by rw [opposite, smaller]; rfl⟩

end ConnectorHub
