import ConnectorHub.Filter.Accept
import ConnectorHub.Filter.Native

namespace ConnectorHub.Filter

/-- Induction on a filter, with the hypothesis for every part of a conjunction or disjunction. -/
@[elab_as_elim, induction_eliminator]
theorem byParts {motive : Filter → Prop}
    (test : ∀ t, motive (.test t))
    (and : ∀ fs, (∀ f ∈ fs, motive f) → motive (.and fs))
    (or : ∀ fs, (∀ f ∈ fs, motive f) → motive (.or fs))
    (not : ∀ f, motive f → motive (.not f)) : ∀ f, motive f
  | .test t => test t
  | .and fs => and fs fun f _ => byParts test and or not f
  | .or fs => or fs fun f _ => byParts test and or not f
  | .not f => not f (byParts test and or not f)

variable {o : ResourceObject}

theorem accepts_and {fs : List Filter} :
    accepts (.and fs) o = true ↔ ∀ f ∈ fs, f.accepts o = true := by
  rw [accepts, acceptsAll_eq_all, List.all_eq_true]

theorem accepts_or {fs : List Filter} :
    accepts (.or fs) o = true ↔ ∃ f ∈ fs, f.accepts o = true := by
  rw [accepts, acceptsAny_eq_any, List.any_eq_true]

section

variable {fs : List Filter} {negate : Bool}
  (h : ∀ f ∈ fs, (f.pushNot negate).accepts o = (f.accepts o != negate))
include h

theorem acceptsAll_pushNotAll :
    acceptsAll (pushNotAll negate fs) o = fs.all fun f => f.accepts o != negate := by
  rw [acceptsAll_eq_all, pushNotAll_eq_map, List.all_map, Bool.eq_iff_iff, List.all_eq_true,
    List.all_eq_true]
  exact forall₂_congr fun f hf => by rw [Function.comp_apply, h f hf]

theorem acceptsAny_pushNotAll :
    acceptsAny (pushNotAll negate fs) o = fs.any fun f => f.accepts o != negate := by
  rw [acceptsAny_eq_any, pushNotAll_eq_map, List.any_map, Bool.eq_iff_iff, List.any_eq_true,
    List.any_eq_true]
  exact exists_congr fun f => and_congr_right fun hf => by rw [Function.comp_apply, h f hf]

end

theorem accepts_pushNot (f : Filter) (negate : Bool) (o : ResourceObject) :
    (f.pushNot negate).accepts o = (f.accepts o != negate) := by
  induction f generalizing negate with
  | test t => cases negate <;> simp [pushNot, accepts]
  | and fs ih =>
    have parts := fun f hf => ih f hf negate
    cases negate with
    | false => simp [pushNot, accepts, acceptsAll_pushNotAll parts, acceptsAll_eq_all]
    | true =>
      simp [pushNot, accepts, acceptsAny_pushNotAll parts, acceptsAll_eq_all,
        List.not_all_eq_any_not]
  | or fs ih =>
    have parts := fun f hf => ih f hf negate
    cases negate with
    | false => simp [pushNot, accepts, acceptsAny_pushNotAll parts, acceptsAny_eq_any]
    | true =>
      simp [pushNot, accepts, acceptsAll_pushNotAll parts, acceptsAny_eq_any,
        List.not_any_eq_all_not]
  | not f ih =>
    rw [pushNot, ih, accepts]
    cases f.accepts o <;> cases negate <;> rfl

end ConnectorHub.Filter
