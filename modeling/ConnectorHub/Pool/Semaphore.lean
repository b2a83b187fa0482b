namespace ConnectorHub

/-- The permits of a pool. One that comes back while borrows wait is handed to the borrow that has
waited longest, which takes it when it goes on. Borrows that wait are told by their tickets. -/
structure Semaphore where
  free : Nat
  queue : List Nat
  handed : List Nat
  deriving DecidableEq, Repr

namespace Semaphore

/-- How many permits nobody has taken. -/
def unclaimed (g : Semaphore) : Nat := g.free + g.handed.length

/-- The tickets of the borrows that wait, also of those that were handed a permit. -/
def tickets (g : Semaphore) : List Nat := g.queue ++ g.handed

/-- The next ticket. -/
def ticket (g : Semaphore) : Nat := g.tickets.foldr (fun t next => max (t + 1) next) 0

/-- Takes a free permit. -/
def take (g : Semaphore) : Semaphore := { g with free := g.free - 1 }

/-- Takes the permit that was handed to a borrow. -/
def claim (ticket : Nat) (g : Semaphore) : Semaphore := { g with handed := g.handed.erase ticket }

def join (g : Semaphore) : Semaphore := { g with queue := g.queue ++ [g.ticket] }

def leave (ticket : Nat) (g : Semaphore) : Semaphore := { g with queue := g.queue.erase ticket }

def release (g : Semaphore) : Semaphore :=
  match g.queue with
  | [] => { g with free := g.free + 1 }
  | ticket :: rest => { g with queue := rest, handed := g.handed ++ [ticket] }

/-- Gives up a ticket, and with it the permit that was handed to it if one was. -/
def abandon (ticket : Nat) (g : Semaphore) : Semaphore :=
  if ticket ∈ g.handed then (g.claim ticket).release else g.leave ticket

/-- Takes a permit that nobody has taken. -/
def Yields (g : Semaphore) (take : Semaphore → Semaphore) : Prop :=
  (take g).unclaimed + 1 = g.unclaimed

variable {g : Semaphore} {ticket : Nat}

theorem unclaimed_release (g : Semaphore) : g.release.unclaimed = g.unclaimed + 1 := by
  cases h : g.queue with
  | nil =>
    simp only [release, h, unclaimed]
    omega
  | cons ticket rest =>
    simp only [release, h, unclaimed, List.length_append, List.length_singleton]
    omega

theorem take_yields (free : 0 < g.free) : g.Yields take := by
  simp only [Yields, unclaimed, take]
  omega

theorem claim_yields (handed : ticket ∈ g.handed) : g.Yields (claim ticket) := by
  have some := List.length_pos_of_mem handed
  simp only [Yields, unclaimed, claim, List.length_erase_of_mem handed]
  omega

theorem release_take (free : 0 < g.free) (none : g.queue = []) : g.take.release = g := by
  have same : g.free - 1 + 1 = g.free := Nat.sub_add_cancel free
  simp only [release, take, none, same]
  rw [← none]

theorem lt_ticket (h : ticket ∈ g.tickets) : ticket < g.ticket := by
  unfold Semaphore.ticket
  generalize g.tickets = ts at h ⊢
  induction ts with
  | nil => exact absurd h List.not_mem_nil
  | cons t ts ih =>
    rw [List.foldr_cons]
    rcases List.mem_cons.mp h with rfl | h
    · exact Nat.lt_of_lt_of_le (Nat.lt_succ_self _) (Nat.le_max_left _ _)
    · exact Nat.lt_of_lt_of_le (ih h) (Nat.le_max_right _ _)

/-- A ticket is nobody's before it is given out. -/
theorem ticket_notMem (g : Semaphore) : g.ticket ∉ g.tickets :=
  fun h => Nat.lt_irrefl _ (lt_ticket h)

/-- Who leaves the queue again at once was never there. -/
theorem leave_join (g : Semaphore) : g.join.leave g.ticket = g := by
  have new : g.ticket ∉ g.queue := fun h => g.ticket_notMem (List.mem_append_left _ h)
  simp only [leave, join, List.erase_append_right _ new, List.erase_cons_head, List.append_nil]

end Semaphore

end ConnectorHub
