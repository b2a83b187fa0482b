import ConnectorHub.Proofs.Search.Stream
import ConnectorHub.Proofs.Stream.Record

namespace ConnectorHub.Instance

open ConnectorHub.Action

variable {σ κ ρ π α : Type} {S : ρ → π → Prop}

theorem agree_beside (x : Action (Site σ κ) α) :
    Agree (Both Eq S) (SameEnd Eq) (Action.onFirst x) (Action.onFirst x) :=
  (Agree.refl x).onFirst

theorem withStages_agree (stages : List Stage) {x : Action (Site σ κ × (List Stage × ρ)) α}
    {y : Action (Site σ κ × (List Stage × π)) α}
    (h : Agree (Both Eq (Both Eq S)) (SameEnd Eq) x y) :
    Agree (Both Eq S) (SameEnd Eq) (withStages stages x) (withStages stages y) := by
  rintro ⟨s, r⟩ ⟨t, q⟩ ⟨same, hrq⟩
  obtain ⟨ends, site, -, kept⟩ := h (s, (stages, r)) (t, (stages, q)) ⟨same, rfl, hrq⟩
  exact ⟨ends, site, kept⟩

section

variable {i : Instance σ κ} {oc : ObjectClass} {options : Options}
  {h : Handler ρ ResourceObject} {g : Handler π ResourceObject} (alike : AnswersAlike S h g)
include alike

theorem execute_answersAlike (q : Option κ) :
    Agree (Both Eq S) (SameEnd Eq) (i.execute oc (q.map .own) h options)
      (i.execute oc (q.map .own) g options) := by
  cases q <;> exact Agree.bindEq (agree_beside _) fun _ => stream_answersAlike alike _

theorem executeAll_answersAlike (queries : List κ) :
    Agree (Both Eq (Both Eq S)) (SameEnd Eq) (i.executeAll oc h options queries)
      (i.executeAll oc g options queries) := by
  induction queries with
  | nil => exact Agree.pure rfl
  | cons q rest ih =>
    refine Agree.bindEq
      (execute_answersAlike (ResultChain.handler_answersAlike alike) (some q)) fun _ => ?_
    refine Agree.bind Agree.get ?_ .error
    rintro ⟨s, stages, r⟩ ⟨t, stages', r'⟩ ⟨-, chain, -⟩
    obtain rfl : stages = stages' := chain
    dsimp only
    split
    · exact ih
    · exact agree_beside _

theorem runQueries_answersAlike (stages : List Stage) (queries : List κ) :
    Agree (Both Eq S) (SameEnd Eq) (i.runQueries oc h options stages queries)
      (i.runQueries oc g options stages queries) := by
  have pushed := ResultChain.handler_answersAlike alike
  match queries with
  | [] => exact withStages_agree stages (execute_answersAlike pushed none)
  | [q] => exact withStages_agree stages (execute_answersAlike pushed (some q))
  | q :: q' :: rest =>
    refine Agree.bindEq (agree_beside _) fun _ => ?_
    exact withStages_agree (.fresh :: stages) (executeAll_answersAlike alike (q :: q' :: rest))

theorem search_answersAlike (f : Option Filter) :
    Agree (Both Eq S) (SameEnd Eq) (i.search oc f h options) (i.search oc f g options) :=
  Agree.bindEq (agree_beside _) fun _ =>
    Agree.bindEq (agree_beside _) fun queries => runQueries_answersAlike alike _ queries

end

/-- The calls of the caller in a search, each with its answer. -/
def callsIn (i : Instance σ κ) (oc : ObjectClass) (f : Option Filter)
    (h : Handler ρ ResourceObject) (options : Options) (s : Site σ κ) (r : ρ) :
    List (ResourceObject × Bool) :=
  (i.search oc f (recorded h) options (s, (r, []))).2.2.2

/-- The record of the calls makes no difference to the search nor to the caller. -/
theorem search_recorded (i : Instance σ κ) (oc : ObjectClass) (f : Option Filter)
    (h : Handler ρ ResourceObject) (options : Options) (s : Site σ κ) (r : ρ) :
    i.search oc f h options (s, r) =
      ((i.search oc f (recorded h) options (s, (r, []))).1,
        ((i.search oc f (recorded h) options (s, (r, []))).2.1,
          (i.search oc f (recorded h) options (s, (r, []))).2.2.1)) := by
  obtain ⟨ends, site, kept⟩ :=
    search_answersAlike (recorded_answersAlike h) f (s, r) (s, (r, [])) ⟨rfl, rfl⟩
  exact Prod.ext ends.eq (Prod.ext site kept)

end ConnectorHub.Instance
