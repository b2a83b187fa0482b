import ConnectorHub.Proofs.Pool.Lasting
import Mathlib.Data.List.Perm.Basic

namespace ConnectorHub

open ConnectorHub.Action

variable {σ κ : Type}

/-- The borrows of these tickets wait at the gate, each with a ticket of its own, and none of them for
a permit that is free. -/
structure Semaphore.Queues (g : Semaphore) (waiting : List Nat) : Prop where
  tickets : g.tickets.Perm waiting
  distinct : waiting.Nodup
  prompt : 0 < g.free → g.queue = []

namespace Semaphore.Queues

variable {g : Semaphore} {ticket : Nat} {waiting others : List Nat}

theorem regroup (h : g.Queues waiting) (same : waiting.Perm others) : g.Queues others :=
  ⟨h.tickets.trans same, same.nodup_iff.mp h.distinct, h.prompt⟩

theorem take (h : g.Queues waiting) : g.take.Queues waiting :=
  ⟨h.tickets, h.distinct, fun free => h.prompt (Nat.lt_of_lt_of_le free (Nat.sub_le _ _))⟩

theorem join (h : g.Queues waiting) (none : ¬0 < g.free) : g.join.Queues (g.ticket :: waiting) where
  tickets := by
    have behind : g.join.tickets = g.queue ++ g.ticket :: g.handed := by
      simp [Semaphore.join, Semaphore.tickets]
    rw [behind]
    exact List.perm_middle.trans (h.tickets.cons g.ticket)
  distinct :=
    List.nodup_cons.mpr ⟨fun out => g.ticket_notMem (h.tickets.mem_iff.mpr out), h.distinct⟩
  prompt free := absurd free none

theorem claim (h : g.Queues (ticket :: waiting)) (handed : ticket ∈ g.handed) :
    (g.claim ticket).Queues waiting where
  tickets := by
    have first : (ticket :: (g.claim ticket).tickets).Perm g.tickets :=
      List.perm_middle.symm.trans ((List.perm_cons_erase handed).symm.append_left g.queue)
    exact (first.trans h.tickets).cons_inv
  distinct := (List.nodup_cons.mp h.distinct).2
  prompt := h.prompt

theorem leave (h : g.Queues (ticket :: waiting)) (unhanded : ticket ∉ g.handed) :
    (g.leave ticket).Queues waiting where
  tickets := by
    have waits : ticket ∈ g.tickets := h.tickets.mem_iff.mpr List.mem_cons_self
    have queued : ticket ∈ g.queue := (List.mem_append.mp waits).resolve_right unhanded
    have first : (ticket :: (g.leave ticket).tickets).Perm g.tickets :=
      (List.perm_cons_erase queued).symm.append_right g.handed
    exact (first.trans h.tickets).cons_inv
  distinct := (List.nodup_cons.mp h.distinct).2
  prompt free := by
    rw [Semaphore.leave, h.prompt free, List.erase_nil]

theorem release (h : g.Queues waiting) : g.release.Queues waiting := by
  cases queue : g.queue with
  | nil =>
    have same : g.release = { g with free := g.free + 1 } := by
      simp only [Semaphore.release, queue]
    rw [same]
    exact ⟨h.tickets, h.distinct, fun _ => queue⟩
  | cons first rest =>
    have same : g.release = { g with queue := rest, handed := g.handed ++ [first] } := by
      simp only [Semaphore.release, queue]
    have none : ¬0 < g.free := fun free => List.cons_ne_nil _ _ (queue.symm.trans (h.prompt free))
    have tickets := h.tickets
    rw [Semaphore.tickets, queue] at tickets
    rw [same]
    refine ⟨.trans ?_ tickets, h.distinct, fun free => absurd free none⟩
    rw [Semaphore.tickets, ← List.append_assoc]
    exact List.perm_append_singleton first _

end Semaphore.Queues

namespace Pool

/-- The ticket of a borrow that waits. -/
def Progress.tickets : Progress σ κ → List Nat
  | .waiting w => [w.ticket]
  | .ended _ => []

/-- Of what is true of the gate nothing changes where the gate does not. -/
theorem gate_growing (P : Semaphore → Prop) : Growing fun s : At σ κ => P s.2.gate where
  write _ hs := hs
  onSite _ _ hs := hs
  update _ _ hs := hs
  construct hs := hs

variable {P : Semaphore → Prop} {waiting : List Nat}

theorem enter_queues {take : Semaphore → Semaphore} (taken : ∀ g, P g → (take g).Queues waiting) :
    Triple (fun s : At σ κ => P s.2.gate) (enter take) (fun _ s => s.2.gate.Queues waiting)
      fun _ s => s.2.gate.Queues waiting := by
  apply Triple.bind (Q := fun _ s => s.2.gate.Queues waiting)
  · exact Triple.modify fun s hs => taken s.2.gate hs
  intro _
  apply Triple.get_bind
  intro s hs
  apply Triple.onStop
  exact ((gate_growing (·.Queues waiting)).takeLive _).triple.weaken (fun _ same => same ▸ hs)
    (fun _ _ => id) fun _ _ ht => ht.release

theorem ended_queues {P : At σ κ → Prop} {x : Action (At σ κ) (Instance σ κ)}
    (hx : Triple P x (fun _ s => s.2.gate.Queues waiting) fun _ s => s.2.gate.Queues waiting) :
    Triple P (ended x)
      (fun progress s => s.2.gate.Queues (progress.tickets ++ waiting))
      fun _ s => s.2.gate.Queues waiting := by
  apply Triple.bind (Q := fun _ s => s.2.gate.Queues waiting)
  · exact hx.attempt (fun _ _ hs => hs) fun _ _ _ hs => hs
  · exact fun _ => Triple.pure fun _ hs => hs

theorem borrow_queues :
    Triple (fun s : At σ κ => s.2.gate.Queues waiting) borrow (fun _ s => s.2.gate.Queues waiting)
      fun _ s => s.2.gate.Queues waiting := by
  apply Triple.get_bind
  intro s hs
  dsimp only
  split
  · exact Triple.fail fun _ same => same ▸ hs
  split
  · exact (enter_queues fun _ => Semaphore.Queues.take).pre fun _ same => same ▸ hs
  · intro t same
    exact (same ▸ hs : t.2.gate.Queues waiting)

/-- A permit that is taken in vain is free again: nobody waits for it. -/
theorem borrow_gate {g : Semaphore} :
    Triple (fun s : At σ κ => s.2.gate = g ∧ (0 < g.free → g.queue = [])) borrow (fun _ _ => True)
      fun _ s => s.2.gate = g := by
  apply Triple.get_bind
  rintro s ⟨rfl, prompt⟩
  dsimp only
  split
  · exact Triple.fail fun _ same => same ▸ rfl
  split
  · next free =>
    apply Triple.bind (Q := fun _ t => t.2.gate = s.2.gate.take)
    · exact Triple.modify fun _ same => same ▸ rfl
    intro _
    apply Triple.get_bind
    intro t ht
    apply Triple.onStop
    refine ((gate_growing (· = s.2.gate.take)).takeLive _).triple.weaken (fun _ same => same ▸ ht)
      (fun _ _ _ => trivial) fun _ u hu => ?_
    show u.2.gate.release = s.2.gate
    rw [hu, Semaphore.release_take free (prompt free)]
  · intro t same
    exact (same ▸ rfl : t.2.gate = s.2.gate)

theorem begin_queues :
    Triple (fun s : At σ κ => s.2.gate.Queues waiting) begin
      (fun progress s => s.2.gate.Queues (progress.tickets ++ waiting))
      fun _ s => s.2.gate.Queues waiting := by
  apply Triple.get_bind
  intro s hs
  dsimp only
  split
  · exact Triple.pure fun _ same => same ▸ hs
  split
  · exact (ended_queues (enter_queues fun _ => Semaphore.Queues.take)).pre fun _ same => same ▸ hs
  · next none =>
    apply Triple.bind (Q := fun _ t => t.2.gate.Queues (s.2.gate.ticket :: waiting))
    · exact Triple.modify fun t same => same ▸ hs.join none
    · exact fun _ => Triple.pure fun _ => id

theorem resume_queues (w : Waiter) :
    Triple (fun s : At σ κ => s.2.gate.Queues (w.ticket :: waiting)) (resume (.waiting w))
      (fun progress s => s.2.gate.Queues (progress.tickets ++ waiting))
      fun _ s => s.2.gate.Queues waiting := by
  apply Triple.get_bind
  intro s hs
  dsimp only
  split
  · next handed =>
    have claimed (g : Semaphore) (hg : g = s.2.gate) : (g.claim w.ticket).Queues waiting :=
      hg ▸ hs.claim handed
    exact (ended_queues (enter_queues claimed)).pre fun _ same => congrArg (·.2.gate) same
  · exact Triple.pure fun _ same => same ▸ hs

theorem withdraw_queues (w : Waiter) :
    Triple (fun s : At σ κ => s.2.gate.Queues (w.ticket :: waiting) ∧ w.ticket ∉ s.2.gate.handed)
      (withdraw w) (fun _ s => s.2.gate.Queues waiting) fun _ s => s.2.gate.Queues waiting :=
  fun _ hs => hs.1.leave hs.2

theorem expire_queues (time : Nat) (w : Waiter) :
    Triple (fun s : At σ κ => s.2.gate.Queues (w.ticket :: waiting)) (expire time (.waiting w))
      (fun progress s => s.2.gate.Queues (progress.tickets ++ waiting))
      fun _ s => s.2.gate.Queues waiting := by
  apply Triple.get_bind
  intro s hs
  dsimp only
  split
  · next late =>
    exact (ended_queues (withdraw_queues w)).pre fun _ same => same ▸ ⟨hs, late.2⟩
  · exact Triple.pure fun _ same => same ▸ hs

theorem giveBack_queues (i : Instance σ κ) :
    Keeps (fun s : At σ κ => s.2.gate.Queues waiting) (giveBack i) := by
  refine Keeps.get_bind fun s hs => ?_
  dsimp only
  split
  · exact (gate_growing (·.Queues waiting)).member i .dispose _ hs.release
  · exact hs.release

end Pool

end ConnectorHub
