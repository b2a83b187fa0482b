import ConnectorHub.Pool.Waiting
import ConnectorHub.Proofs.Action.Triple

namespace ConnectorHub

variable {σ κ : Type}

namespace Entry

def built? : Entry κ → Option Nat
  | built inst _ => some inst
  | _ => none

def disposed? : Entry κ → Option Nat
  | called inst .dispose => some inst
  | _ => none

/-- Neither constructs an instance nor disposes of one. -/
def Quiet (e : Entry κ) : Prop := e.built? = none ∧ e.disposed? = none

theorem quiet_noted (n : Note) : (noted n : Entry κ).Quiet := ⟨rfl, rfl⟩

theorem quiet_called {id : Nat} {c : Call} (hc : c ≠ .dispose) :
    (called id c : Entry κ).Quiet := by
  refine ⟨rfl, ?_⟩
  cases c with
  | dispose => exact absurd rfl hc
  | _ => rfl

/-- How often the instance was constructed. -/
def constructions (id : Nat) (journal : List (Entry κ)) : Nat :=
  (journal.filterMap built?).count id

/-- How often the instance was disposed of. -/
def disposals (id : Nat) (journal : List (Entry κ)) : Nat :=
  (journal.filterMap disposed?).count id

@[simp] theorem constructions_nil (id : Nat) : constructions id ([] : List (Entry κ)) = 0 := rfl

@[simp] theorem disposals_nil (id : Nat) : disposals id ([] : List (Entry κ)) = 0 := rfl

@[simp] theorem constructions_append (id : Nat) (as bs : List (Entry κ)) :
    constructions id (as ++ bs) = constructions id as + constructions id bs := by
  simp [constructions]

@[simp] theorem disposals_append (id : Nat) (as bs : List (Entry κ)) :
    disposals id (as ++ bs) = disposals id as + disposals id bs := by
  simp [disposals]

theorem Quiet.constructions_eq_zero {e : Entry κ} (he : e.Quiet) (id : Nat) :
    constructions id [e] = 0 := by
  simp [constructions, he.1]

theorem Quiet.disposals_eq_zero {e : Entry κ} (he : e.Quiet) (id : Nat) :
    disposals id [e] = 0 := by
  simp [disposals, he.2]

theorem constructions_built (id inst maker : Nat) :
    constructions id [(built inst maker : Entry κ)] = if inst = id then 1 else 0 := by
  simp [constructions, built?, List.count_singleton]

theorem disposals_built (id inst maker : Nat) :
    disposals id [(built inst maker : Entry κ)] = 0 := rfl

theorem constructions_dispose (id inst : Nat) :
    constructions id [(called inst .dispose : Entry κ)] = 0 := rfl

theorem disposals_dispose (id inst : Nat) :
    disposals id [(called inst .dispose : Entry κ)] = [inst].count id := rfl

end Entry

/-- What was written after the first `n` entries. -/
def Site.since (n : Nat) (s : Site σ κ) : List (Entry κ) := s.journal.drop n

@[simp] theorem Site.since_zero (s : Site σ κ) : s.since 0 = s.journal := rfl

theorem Site.since_write {n : Nat} {s : Site σ κ} (h : n ≤ s.journal.length) (e : Entry κ) :
    Site.since n { s with journal := s.journal ++ [e] } = s.since n ++ [e] :=
  List.drop_append_of_le_length h

namespace Pool

/-- The numbers of the instances in a list of idle ones. -/
def ids (es : List (IdleInstance σ κ)) : List Nat := es.map (·.member.id)

@[simp] theorem ids_append (as bs : List (IdleInstance σ κ)) : ids (as ++ bs) = ids as ++ ids bs :=
  List.map_append

/-- What a pool should come to: its permits, bounds on its idle instances, and the instances that
are not idle. The account is opened at an entry of the journal; instances are numbered from `first`
on, and the `given` ones were there before. Only `known` instances are ever idle. -/
structure Account where
  settings : PoolSettings
  permits : Nat
  room : Nat
  limit : Nat
  first : Nat
  opened : Nat := 0
  known : Nat → Prop := fun _ => True
  given : List Nat := []
  held : List Nat := []
  lost : List Nat := []

namespace Account

def hold (a : Account) (ids : List Nat) : Account := { a with held := ids ++ a.held }

def lose (a : Account) (ids : List Nat) : Account := { a with lost := ids ++ a.lost }

theorem hold_hold (a : Account) (as bs : List Nat) : (a.hold as).hold bs = a.hold (bs ++ as) := by
  simp [hold]

/-- A place less for an idle instance. -/
def narrow (a : Account) : Account := { a with room := a.room - 1 }

/-- One instance lent, with a permit. -/
def lend (a : Account) (id : Nat) : Account :=
  ({ a with permits := a.permits - 1 }.narrow).hold [id]

/-- One permit back, and with it an idle instance or none. -/
def restore (a : Account) : Account := { a with permits := a.permits + 1, room := a.room + 1 }

/-- The pool comes to what the account says. -/
structure Of (a : Account) (s : At σ κ) : Prop where
  settings : s.2.settings = a.settings
  permits : s.2.permits = a.permits
  room : s.2.idle.length ≤ a.room
  limit : s.2.idle.length ≤ a.limit
  first : a.first ≤ s.1.built
  opened : a.opened ≤ s.1.journal.length
  known {id : Nat} : id ∈ ids s.2.idle → a.known id
  numbered (id : Nat) :
    Entry.constructions id (s.1.since a.opened) = if a.first ≤ id ∧ id < s.1.built then 1 else 0
  balance (id : Nat) :
    (ids s.2.idle).count id + a.held.count id + Entry.disposals id (s.1.since a.opened) +
        a.lost.count id =
      Entry.constructions id (s.1.since a.opened) + a.given.count id

/-- What is left when a call stops. An error loses nothing. -/
def After (a : Account) (why : Stop) (s : At σ κ) : Prop :=
  match why with
  | .error _ => a.Of s
  | _ => ∃ ids, (a.lose ids).Of s

variable {a : Account} {s : Site σ κ} {p : Pool σ κ} {why : Stop}

theorem Of.after {s : At σ κ} (h : a.Of s) (why : Stop) : a.After why s := by
  cases why with
  | error e => exact h
  | panic text => exact ⟨[], h⟩
  | cancelled => exact ⟨[], h⟩

theorem After.settled {s : At σ κ} (h : a.After why s) (settled : why.abrupt = false) : a.Of s := by
  cases why with
  | error e => exact h
  | panic text => cases settled
  | cancelled => cases settled

theorem After.exists_lost {s : At σ κ} (h : a.After why s) :
    ∃ ids, (why.abrupt = false → ids = []) ∧ (a.lose ids).Of s := by
  cases why with
  | error e => exact ⟨[], fun _ => rfl, h⟩
  | panic text => exact h.imp fun _ hs => ⟨nofun, hs⟩
  | cancelled => exact h.imp fun _ hs => ⟨nofun, hs⟩

theorem After.lose {ids : List Nat} {s : At σ κ} (h : (a.hold ids).After why s)
    (cut : why.abrupt = true) : a.After why s := by
  have merge {more : List Nat} (h : ((a.hold ids).lose more).Of s) :
      (a.lose (ids ++ more)).Of s := by
    refine { h with balance := fun id => ?_ }
    have balance := h.balance id
    simp only [hold, Account.lose, List.count_append] at balance ⊢
    omega
  cases why with
  | error e => exact absurd cut Bool.false_ne_true
  | panic text => exact h.imp' _ fun _ => merge
  | cancelled => exact h.imp' _ fun _ => merge

theorem After.map {b : Account} {s t : At σ κ} (h : a.After why s)
    (f : ∀ ids, (a.lose ids).Of s → (b.lose ids).Of t) : b.After why t := by
  cases why with
  | error e => exact f [] h
  | panic text => exact h.imp f
  | cancelled => exact h.imp f

theorem Of.widen {s : At σ κ} {room : Nat} (h : ({ a with room := room }).Of s)
    (hr : room ≤ a.room) : a.Of s :=
  { h with room := Nat.le_trans h.room hr }

theorem After.widen {s : At σ κ} {room : Nat} (h : ({ a with room := room }).After why s)
    (hr : room ≤ a.room) : a.After why s :=
  h.map fun ids hs => Of.widen (a := a.lose ids) hs hr

theorem Of.narrow {s : At σ κ} (h : a.narrow.Of s) : a.Of s := h.widen (Nat.sub_le a.room 1)

theorem After.narrow {s : At σ κ} (h : a.narrow.After why s) : a.After why s :=
  h.widen (Nat.sub_le a.room 1)

theorem Of.regroup {s : At σ κ} (h : a.Of s) {held : List Nat} (hp : a.held.Perm held) :
    ({ a with held := held }).Of s :=
  { h with balance := fun id => hp.count_eq id ▸ h.balance id }

theorem Of.opened_write {s : At σ κ} (h : a.Of s) (e : Entry κ) :
    a.opened ≤ (s.1.journal ++ [e]).length := by
  rw [List.length_append]
  exact Nat.le_add_right_of_le h.opened

theorem Of.write (h : a.Of (s, p)) {e : Entry κ} (he : e.Quiet) :
    a.Of ({ s with journal := s.journal ++ [e] }, p) := by
  have grown := Site.since_write h.opened e
  refine { h with
    opened := h.opened_write e
    numbered := fun id => ?_
    balance := fun id => ?_ }
  · rw [grown, Entry.constructions_append, he.constructions_eq_zero]
    exact h.numbered id
  · rw [grown, Entry.constructions_append, he.constructions_eq_zero, Entry.disposals_append,
      he.disposals_eq_zero]
    exact h.balance id

theorem Of.onSite (h : a.Of (s, p)) (clock : Nat) (resource : σ) :
    a.Of ({ s with clock := clock, resource := resource }, p) :=
  { h with }

theorem Of.writeDispose {id : Nat} (h : (a.hold [id]).Of (s, p)) :
    a.Of ({ s with journal := s.journal ++ [.called id .dispose] }, p) := by
  have grown : Site.since a.opened { s with journal := s.journal ++ [.called id .dispose] } = _ :=
    Site.since_write h.opened (.called id .dispose)
  refine { h with
    opened := h.opened_write _
    numbered := fun i => ?_
    balance := fun i => ?_ }
  · rw [grown, Entry.constructions_append, Entry.constructions_dispose]
    exact h.numbered i
  · have balance := h.balance i
    rw [grown]
    simp only [hold, List.count_append, Entry.constructions_append,
      Entry.constructions_dispose, Entry.disposals_append, Entry.disposals_dispose] at balance ⊢
    omega

theorem Of.construct (h : a.Of (s, p)) (maker : Nat) :
    (a.hold [s.built]).Of
      ({ s with built := s.built + 1, journal := s.journal ++ [.built s.built maker] }, p) := by
  have first : a.first ≤ s.built := h.first
  have grown : Site.since (a.hold [s.built]).opened { s with
      built := s.built + 1
      journal := s.journal ++ [.built s.built maker] } = _ :=
    Site.since_write h.opened (.built s.built maker)
  refine { h with
    first := Nat.le_succ_of_le first
    opened := h.opened_write _
    numbered := fun id => ?_
    balance := fun id => ?_ }
  · have numbered := h.numbered id
    rw [grown]
    simp only [hold, Entry.constructions_append, Entry.constructions_built] at numbered ⊢
    grind
  · have balance := h.balance id
    rw [grown]
    simp only [hold, List.count_append, List.count_singleton, Entry.constructions_append,
      Entry.constructions_built, Entry.disposals_append, Entry.disposals_built,
      beq_iff_eq] at balance ⊢
    omega

end Account

end Pool

end ConnectorHub
