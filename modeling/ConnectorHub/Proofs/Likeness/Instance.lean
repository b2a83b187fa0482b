import ConnectorHub.Proofs.Action.Agree
import ConnectorHub.Update

namespace ConnectorHub

variable {σ κ ρ α β : Type}

/-- The calls that see to an instance itself. -/
def Call.isUpkeep : Call → Bool
  | init _ | dispose | checkAlive => true
  | _ => false

namespace Entry

/-- Sees to instances: constructs, initializes, probes or disposes of one. -/
def Upkeep : Entry κ → Prop
  | built .. | noted _ => True
  | called _ c => c.isUpkeep = true
  | _ => False

/-- Disposes of the instance. -/
def ClosingOf (id : Nat) : Entry κ → Prop
  | noted _ => True
  | called inst c => inst = id ∧ c = .dispose
  | _ => False

/-- Is work of one instance for a caller. -/
def WorkOf (id : Nat) : Entry κ → Prop
  | noted _ => True
  | called inst c => inst = id ∧ c.isUpkeep = false
  | translated inst .. | queried inst .. | synced inst .. => inst = id
  | handledObject inst .. | handledDelta inst .. => inst = id
  | built .. | checked _ => False

end Entry

/-- Answers alike. A disposal may fail on one side only, but it changes the resource alike. -/
structure Connector.Alike (c d : Connector σ κ) : Prop where
  provides : c.provides = d.provides
  rule : c.rule = d.rule
  translate : c.translate = d.translate
  query : c.query = d.query
  sync : c.sync = d.sync
  perform {x : Call} (id : Nat) : x ≠ .dispose → c.perform id x = d.perform id x
  dispose (id : Nat) : Action.Agree Eq SameCut (c.perform id .dispose) (d.perform id .dispose)

structure Instance.Alike (i j : Instance σ κ) : Prop where
  id : i.id = j.id
  capabilities : i.capabilities = j.capabilities
  rule : i.rule = j.rule
  connector : i.connector.Alike j.connector

/-- The sites differ in their journals only. -/
structure Site.Alike (s t : Site σ κ) : Prop where
  clock : s.clock = t.clock
  resource : s.resource = t.resource
  built : s.built = t.built

/-- The first site has grown since `before` by entries of one kind. -/
structure Site.Like (kind : Entry κ → Prop) (before : List (Entry κ)) (s t : Site σ κ) : Prop
    extends s.Alike t where
  written : ∃ es, s.journal = before ++ es ∧ ∀ e ∈ es, kind e

open ConnectorHub.Action

theorem Connector.Alike.refl (c : Connector σ κ) : c.Alike c where
  provides := rfl
  rule := rfl
  translate := rfl
  query := rfl
  sync := rfl
  perform _ _ := rfl
  dispose _ := by
    intro s other same
    subst same
    exact ⟨.refl _, rfl⟩

theorem Instance.Alike.refl (i : Instance σ κ) : i.Alike i :=
  ⟨rfl, rfl, rfl, .refl i.connector⟩

namespace Site

variable {kind : Entry κ → Prop} {before : List (Entry κ)} {s t : Site σ κ}
  {Q : Except Stop α → Except Stop β → Prop}

theorem Alike.like {s t : Site σ κ} (h : s.Alike t) (kind : Entry κ → Prop) :
    s.Like kind s.journal t :=
  { h with written := ⟨[], (List.append_nil _).symm, fun _ he => absurd he List.not_mem_nil⟩ }

theorem Like.write (h : s.Like kind before t) {e : Entry κ} (he : kind e) :
    Like kind before { s with journal := s.journal ++ [e] } t := by
  obtain ⟨es, grown, hes⟩ := h.written
  refine { h with written := ⟨es ++ [e], ?_, ?_⟩ }
  · rw [grown, List.append_assoc]
  · intro e' he'
    rcases List.mem_append.mp he' with he' | he'
    · exact hes e' he'
    · exact List.mem_singleton.mp he' ▸ he

/-- The second site's journal is free. -/
theorem Like.rewrite (h : s.Like kind before t) (journal : List (Entry κ)) :
    s.Like kind before { t with journal := journal } :=
  { h with }

theorem agree_write {e : Entry κ} (he : kind e) (e' : Entry κ) :
    Agree (Like (σ := σ) kind before) (SameEnd Eq) (write e) (write e') :=
  Agree.modify fun _ _ hst => (hst.write he).rewrite _

theorem agree_onResource {x : Action σ α} {y : Action σ β} (h : Agree Eq Q x y) :
    Agree (Like kind before) Q (onResource x) (onResource y) := by
  intro s t hst
  obtain ⟨ends, next⟩ := h s.resource t.resource hst.resource
  exact ⟨ends, { hst with resource := next }⟩

theorem agree_onResource_self (x : Action σ α) :
    Agree (Like kind before) (SameEnd Eq) (onResource x) (onResource x) :=
  agree_onResource fun _ _ hst => hst ▸ ⟨.refl (fun _ => rfl) _, rfl⟩

end Site

end ConnectorHub
