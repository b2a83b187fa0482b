import ConnectorHub.Proofs.Likeness.Instance
import ConnectorHub.Scripted.Connector

namespace ConnectorHub

open ConnectorHub.Action

/-- A call whose planned faults are errors is counted and is not cut short. -/
theorem Resource.use_settled {s : ConnectorScript} {name : String}
    (errors : ∀ faults ∈ s.faults.lookup name, ∀ planned ∈ faults, ∀ fault ∈ planned,
      fault.stop.abrupt = false) (r : Resource) :
    ∃ result : Except Stop Unit, Settled result ∧
      Resource.use s name r = (result, { r with uses := name :: r.uses }) := by
  unfold Resource.use
  dsimp only
  cases listed : s.faults.lookup name with
  | none => exact ⟨.ok (), settled_ok (), rfl⟩
  | some faults =>
    dsimp only [Option.bind_some]
    cases found : faults[r.uses.count name]?.join with
    | none => exact ⟨.ok (), settled_ok (), rfl⟩
    | some fault =>
      have member : some fault ∈ faults := List.mem_of_getElem? (Option.join_eq_some_iff.mp found)
      refine ⟨.error fault.stop, ?_, rfl⟩
      rintro _ ⟨⟩
      exact errors faults listed (some fault) member fault rfl

namespace ConnectorScript

/-- The script with these outcomes of its disposals. -/
def disposing (s : ConnectorScript) (outcomes : List (Option Error)) : ConnectorScript :=
  { s with faults := ("dispose", outcomes.map fun e => e.map Fault.error) :: s.faults }

variable (s : ConnectorScript) (outcomes outcomes' : List (Option Error))

theorem use_disposing {name : String} (other : name ≠ "dispose") :
    Resource.use (s.disposing outcomes) name = Resource.use (s.disposing outcomes') name := by
  have faults (os : List (Option Error)) :
      (s.disposing os).faults.lookup name = s.faults.lookup name := by
    rw [disposing, List.lookup_cons, beq_false_of_ne other]
  unfold Resource.use
  rw [faults, faults]

theorem use_dispose (r : Resource) :
    ∃ result : Except Stop Unit, Settled result ∧ Resource.use (s.disposing outcomes) "dispose" r =
      (result, { r with uses := "dispose" :: r.uses }) := by
  refine Resource.use_settled ?_ r
  rw [disposing, List.lookup_cons_self]
  rintro _ ⟨⟩ planned member fault its
  obtain ⟨e, -, rfl⟩ := List.mem_map.mp member
  obtain ⟨e, -, rfl⟩ := Option.map_eq_some_iff.mp its
  rfl

theorem dispose_disposing (place id : Nat) (rs : Resources) :
    ∃ result : Except Stop Unit, Settled result ∧
      ((s.disposing outcomes).fullConnector place).perform id .dispose rs =
        (result, put place { resourceAt place rs with
          uses := "dispose" :: (resourceAt place rs).uses } rs) := by
  obtain ⟨result, settled, used⟩ := s.use_dispose outcomes (resourceAt place rs)
  refine ⟨result, settled, ?_⟩
  have run : Resource.perform (s.disposing outcomes) .dispose (resourceAt place rs) =
      (result, { resourceAt place rs with uses := "dispose" :: (resourceAt place rs).uses }) := by
    cases result with
    | ok done => exact Action.bind_of_ok used
    | error why => exact Action.bind_of_error used
  show Action.zoom (resourceAt place) (put place) (Resource.perform (s.disposing outcomes) .dispose) rs
    = _
  rw [Action.zoom, run]
  rfl

theorem name_ne_dispose {x : Call} (served : x ≠ .dispose) : x.name ≠ "dispose" := by
  cases x with
  | dispose => exact absurd rfl served
  | _ => simp [Call.name]

theorem offerChanges_disposing (oc : ObjectClass) (r : Resource) (cs : List ChangeScript) :
    Resource.offerChanges (s.disposing outcomes) oc r cs =
      Resource.offerChanges (s.disposing outcomes') oc r cs := by
  induction cs with
  | nil => rfl
  | cons c rest ih =>
    unfold Resource.offerChanges
    rw [ih]
    rfl

theorem disposing_alike (place : Nat) :
    ((s.disposing outcomes).fullConnector place).Alike
      ((s.disposing outcomes').fullConnector place) where
  provides := rfl
  rule := rfl
  translate := rfl
  query := by
    funext id oc q options rs
    unfold fullConnector Resource.query
    dsimp only
    rw [s.use_disposing outcomes outcomes' (by decide : "query" ≠ "dispose"),
      s.use_disposing outcomes outcomes' (by decide : "query_end" ≠ "dispose")]
    rfl
  sync := by
    funext id oc token options rs
    unfold fullConnector Resource.sync
    dsimp only
    rw [s.use_disposing outcomes outcomes' (by decide : "sync" ≠ "dispose")]
    simp only [s.offerChanges_disposing outcomes outcomes']
    rfl
  perform {x} id served := by
    have used := s.use_disposing outcomes outcomes' (name_ne_dispose served)
    have performed : Resource.perform (s.disposing outcomes) x =
        Resource.perform (s.disposing outcomes') x := by
      unfold Resource.perform
      rw [used]
      rfl
    exact congrArg (Action.zoom (resourceAt place) (put place)) performed
  dispose id := by
    intro rs other same
    subst same
    obtain ⟨result, settled, run⟩ := s.dispose_disposing outcomes place id rs
    obtain ⟨result', settled', run'⟩ := s.dispose_disposing outcomes' place id rs
    rw [run, run']
    exact ⟨.settled settled settled', rfl⟩

end ConnectorScript

end ConnectorHub
