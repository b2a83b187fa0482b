import ConnectorHub.Proofs.Filter.PushNot

namespace ConnectorHub

namespace Filter

/-- Every negation is at a test. -/
inductive Pushed : Filter → Prop
  | test (t : AttributeTest) : Pushed (.test t)
  | notTest (t : AttributeTest) : Pushed (.not (.test t))
  | and {fs : List Filter} (parts : ∀ f ∈ fs, Pushed f) : Pushed (.and fs)
  | or {fs : List Filter} (parts : ∀ f ∈ fs, Pushed f) : Pushed (.or fs)

theorem forall_mem_pushNotAll {motive : Filter → Prop} {fs : List Filter} {negate : Bool}
    (h : ∀ f ∈ fs, motive (f.pushNot negate)) : ∀ g ∈ pushNotAll negate fs, motive g := by
  rw [pushNotAll_eq_map]
  exact List.forall_mem_map.mpr h

theorem pushed_pushNot (f : Filter) (negate : Bool) : (f.pushNot negate).Pushed := by
  -- A negation flips the flag, so both polarities are carried at once.
  induction f generalizing negate with
  | test t =>
    cases negate with
    | false => exact .test t
    | true => exact .notTest t
  | and fs ih =>
    have parts := forall_mem_pushNotAll fun f hf => ih f hf negate
    cases negate with
    | false => exact .and parts
    | true => exact .or parts
  | or fs ih =>
    have parts := forall_mem_pushNotAll fun f hf => ih f hf negate
    cases negate with
    | false => exact .or parts
    | true => exact .and parts
  | not f ih => exact ih (!negate)

theorem pushNotAll_eq_self {fs : List Filter} (h : ∀ f ∈ fs, f.pushNot false = f) :
    pushNotAll false fs = fs := by
  rw [pushNotAll_eq_map]
  exact (List.map_congr_left h).trans (List.map_id fs)

theorem pushNot_of_pushed {f : Filter} (h : f.Pushed) : f.pushNot false = f := by
  induction h with
  | test t => rfl
  | notTest t => rfl
  | and _ ih => simp [pushNot, pushNotAll_eq_self ih]
  | or _ ih => simp [pushNot, pushNotAll_eq_self ih]

end Filter

namespace Dialect

variable {κ : Type} (d : Dialect κ) (other : Filter → Option κ)

mutual

/-- The queries of a filter, where `other` is asked for the query of a negation that is not at a
test. -/
def queriesElse : Filter → List κ
  | .test t => (d.test t false).toList
  | .and fs => foldFirst d.join (queriesElseOfEach fs)
  | .or fs => foldFirst d.union (queriesElseOfEach fs)
  | .not (.test t) => (d.test t true).toList
  | .not f => (other f).toList

def queriesElseOfEach : List Filter → List (List κ)
  | [] => []
  | f :: fs => queriesElse f :: queriesElseOfEach fs

end

theorem queriesElseOfEach_eq {fs : List Filter}
    (h : ∀ f ∈ fs, d.queriesElse other f = d.queriesOfPushed f) :
    d.queriesElseOfEach other fs = d.queriesOfEach fs := by
  induction fs with
  | nil => rfl
  | cons f fs ih =>
    obtain ⟨hf, hfs⟩ := List.forall_mem_cons.mp h
    rw [queriesElseOfEach, queriesOfEach, hf, ih hfs]

/-- The queries as they are made ask for nothing there. -/
theorem queriesElse_none (f : Filter) : d.queriesElse (fun _ => none) f = d.queriesOfPushed f := by
  induction f with
  | test t => rfl
  | and fs ih => rw [queriesElse, queriesOfPushed, queriesElseOfEach_eq _ _ ih]
  | or fs ih => rw [queriesElse, queriesOfPushed, queriesElseOfEach_eq _ _ ih]
  | not f => cases f <;> rfl

theorem queriesElse_of_pushed {f : Filter} (h : f.Pushed) :
    d.queriesElse other f = d.queriesOfPushed f := by
  induction h with
  | test t => rfl
  | notTest t => rfl
  | and _ ih => rw [queriesElse, queriesOfPushed, queriesElseOfEach_eq _ _ ih]
  | or _ ih => rw [queriesElse, queriesOfPushed, queriesElseOfEach_eq _ _ ih]

/-- Whatever a negation away from the tests were to give, no query of a filter is made of it. -/
theorem queriesElse_pushNot (f : Filter) : d.queriesElse other (f.pushNot false) = d.queries f :=
  d.queriesElse_of_pushed other (f.pushed_pushNot false)

end Dialect

/-- A negation pushed down flips what is accepted if it was asked for and no more, leaves every
negation at a test, is settled, and no query is ever asked of another negation. -/
theorem Filter.pushNot_normal (f : Filter) (negate : Bool) :
    (∀ o, (f.pushNot negate).accepts o = (f.accepts o != negate)) ∧
      (f.pushNot negate).Pushed ∧
      (f.pushNot negate).pushNot false = f.pushNot negate ∧
      ∀ {κ : Type} (d : Dialect κ) (other : Filter → Option κ),
        d.queriesElse other (f.pushNot false) = d.queries f :=
  have pushed := f.pushed_pushNot negate
  ⟨f.accepts_pushNot negate, pushed, Filter.pushNot_of_pushed pushed,
    fun d other => d.queriesElse_pushNot other f⟩

end ConnectorHub
