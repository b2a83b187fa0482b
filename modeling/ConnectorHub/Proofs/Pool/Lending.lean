import ConnectorHub.Proofs.Pool.Closed
import ConnectorHub.Proofs.Pool.Course
import ConnectorHub.Proofs.Pool.Lasting
import Mathlib.Data.List.Nodup

namespace ConnectorHub.Pool

open ConnectorHub.Action

variable {σ κ : Type}

/-- The idle instances are in the order of their return, and none is to return yet. -/
structure Dated (s : At σ κ) : Prop where
  ordered : InOrder s.2.idle
  past : ∀ e ∈ s.2.idle, e.returnedAt ≤ s.1.clock

namespace Dated

variable {s t : At σ κ}

theorem of_sublist (h : Dated s) (fewer : t.2.idle.Sublist s.2.idle)
    (later : s.1.clock ≤ t.1.clock) : Dated t where
  ordered := h.ordered.sublist fewer
  past e he := Nat.le_trans (h.past e (fewer.subset he)) later

theorem of_same (h : Dated s) (same : t.2.idle = s.2.idle) (later : s.1.clock ≤ t.1.clock) :
    Dated t :=
  h.of_sublist (same ▸ List.Sublist.refl _) later

end Dated

theorem Turns.dated {take : Semaphore → Semaphore} {s t : At σ κ}
    {result : Except Stop (Instance σ κ)} (h : Turns take s result t) (hs : Dated s) : Dated t := by
  have kept : (keptAt s).Sublist s.2.idle := List.drop_sublist _ _
  exact hs.of_sublist (h.left.sublist.trans kept) (Nat.le_of_eq h.course.clock.symm)

theorem enter_dated (take : Semaphore → Semaphore) : Keeps (Dated (σ := σ) (κ := κ)) (enter take) :=
  fun _ hs => (enter_turns take hs.ordered).dated hs

theorem giveUp_dated : Keeps (Dated (σ := σ) (κ := κ)) giveUp :=
  fun _ hs => hs.of_same rfl (Nat.le_refl _)

theorem regate_dated (f : Semaphore → Semaphore) :
    Keeps (Dated (σ := σ) (κ := κ)) (update (regate f)) :=
  Keeps.modify fun _ hs => hs.of_same rfl (Nat.le_refl _)

theorem borrow_dated : Keeps (Dated (σ := σ) (κ := κ)) borrow := by
  refine Keeps.get_bind fun s hs => ?_
  dsimp only
  split
  · exact hs
  split
  · exact enter_dated _ s hs
  · exact giveUp_dated _ (hs.of_same rfl (Nat.le_add_right _ _))

theorem ended_snd (x : Action (At σ κ) (Instance σ κ)) (s : At σ κ) : (ended x s).2 = (x s).2 := by
  rw [ended, bind_apply]
  cases run : x s with
  | mk r t =>
  obtain ⟨i, -, tried⟩ | ⟨e, -, tried⟩ | ⟨why, -, -, tried⟩ := Action.attempt_cases run
  · rw [tried]
    rfl
  · rw [tried]
    rfl
  · rw [tried]

theorem begin_dated : Keeps (Dated (σ := σ) (κ := κ)) begin := by
  refine Keeps.get_bind fun s hs => ?_
  dsimp only
  split
  · exact hs
  split
  · exact keeps_ended (enter_dated _) s hs
  · exact regate_dated _ s hs

theorem resume_dated (progress : Progress σ κ) : Keeps Dated (resume progress) := by
  cases progress with
  | ended result => exact .pure _
  | waiting w =>
    refine Keeps.get_bind fun s hs => ?_
    dsimp only
    split
    · exact keeps_ended (enter_dated _) s hs
    · exact hs

theorem expire_dated (time : Nat) (progress : Progress σ κ) : Keeps Dated (expire time progress) := by
  cases progress with
  | ended result => exact .pure _
  | waiting w =>
    refine Keeps.get_bind fun s hs => ?_
    dsimp only
    split
    · exact keeps_ended ((regate_dated _).bind fun _ => giveUp_dated) s hs
    · exact hs

/-- The latest returned stands at the end. -/
theorem giveBack_dated (i : Instance σ κ) : Keeps Dated (giveBack i) := by
  refine Keeps.get_bind fun s hs => ?_
  dsimp only
  split
  · have disposes : Keeps Dated (Action.onFirst i.dispose : Action (At σ κ) Unit) :=
      Keeps.onFirst fun p s hs => hs.of_same rfl (Nat.le_refl _)
    exact ((regate_dated _).bind fun _ => disposes) s hs
  · refine ⟨List.pairwise_append.mpr ⟨hs.ordered, List.pairwise_singleton _ _, ?_⟩, ?_⟩
    · intro e he f hf
      cases List.mem_singleton.mp hf
      exact hs.past e he
    · intro e he
      rcases List.mem_append.mp he with he | he
      · exact hs.past e he
      · cases List.mem_singleton.mp he
        exact Nat.le_refl _

theorem close_dated : Keeps (Dated (σ := σ) (κ := κ)) close := by
  intro s hs
  have shut := close_shut s
  refine ⟨?_, ?_⟩
  · rw [shut.empty]
    exact List.Pairwise.nil
  · rw [shut.empty]
    exact fun _ he => absurd he List.not_mem_nil

namespace Usage

variable {c : PoolSettings} {u : Usage σ κ}

theorem progress_place (u : Usage σ κ) (x : Except Stop (Progress σ κ) × At σ κ) :
    (u.progress x).place = x.2 := by
  obtain ⟨result, t⟩ := x
  cases result with
  | error why => rfl
  | ok progress =>
    cases progress with
    | waiting w => rfl
    | ended result => cases result <;> rfl

/-- To go on with a borrow that waits changes the place as the borrow does. -/
theorem goOn_place (u : Usage σ κ) (n : Nat) (x : Progress σ κ → Action (At σ κ) (Progress σ κ)) :
    (u.goOn n x).place = u.place ∨
      ∃ w, (u.goOn n x).place = (x (.waiting w) u.place).2 := by
  unfold goOn
  split
  · next w _ => exact .inr ⟨w, progress_place _ _⟩
  · exact .inl rfl

theorem dated_goOn (h : Dated u.place) (n : Nat)
    {x : Progress σ κ → Action (At σ κ) (Progress σ κ)} (hx : ∀ progress, Keeps Dated (x progress)) :
    Dated (u.goOn n x).place := by
  rcases goOn_place u n x with same | ⟨w, place⟩
  · rw [same]
    exact h
  · rw [place]
    exact hx _ _ h

theorem dated_step (h : Dated u.place) (m : Move σ) : Dated (u.step m).place := by
  cases m with
  | borrow =>
    rw [step, progress_place, ended_snd]
    exact borrow_dated _ h
  | begin =>
    rw [step, progress_place]
    exact begin_dated _ h
  | resume n => exact dated_goOn h n resume_dated
  | expire n => exact dated_goOn h n (expire_dated _)
  | giveBack n =>
    rw [step]
    split
    · exact giveBack_dated _ _ h
    · exact h
  | close => exact close_dated _ h
  | wait ms => exact h.of_same rfl (Nat.le_add_right _ _)
  | turn resource => exact h.of_same rfl (Nat.le_refl _)

theorem dated_run (h : Dated u.place) (moves : List (Move σ)) : Dated (u.run moves).place := by
  induction moves generalizing u with
  | nil => exact h
  | cons m moves ih => exact ih (dated_step h m)

end Usage

/-- All instances are out. -/
structure Spent (p : Pool σ κ) : Prop where
  permits : p.permits = 0
  idle : p.idle = []

/-- The pool is as before, but for the borrows that queue, and for being closed perhaps. -/
def Unmoved (p q : Pool σ κ) : Prop :=
  q = { p with gate := { p.gate with queue := q.gate.queue }, closed := q.closed }

section

variable {p q r : Pool σ κ}

theorem Unmoved.of_eq (same : q = p) : Unmoved p q := by
  rw [Unmoved, same]

theorem Unmoved.trans (h : Unmoved p q) (later : Unmoved q r) : Unmoved p r := by
  rw [Unmoved] at h later ⊢
  rw [later, h]

theorem Unmoved.settings (h : Unmoved p q) : q.settings = p.settings := by
  rw [h]

theorem Spent.of_unmoved (hp : Spent p) (h : Unmoved p q) : Spent q := by
  rw [h]
  exact ⟨hp.permits, hp.idle⟩

end

/-- The site once it is noted that the pool is exhausted. -/
def exhaustedAt (s : At σ κ) : Site σ κ := { s.1 with
  journal := s.1.journal ++ [.noted (.poolExhausted s.2.factory.key s.2.settings.maxObjects.toNat)] }

theorem giveUp_apply (s : At σ κ) :
    giveUp s = (.error (.error (.poolExhausted s.2.settings.maxWait.toNat)), (exhaustedAt s, s.2)) :=
  rfl

namespace Spent

variable {s : At σ κ} (h : Spent s.2)
include h

theorem free : ¬0 < s.2.gate.free := by
  have none : s.2.gate.free + s.2.gate.handed.length = 0 := h.permits
  omega

theorem handed : s.2.gate.handed = [] := by
  have none : s.2.gate.free + s.2.gate.handed.length = 0 := h.permits
  exact List.eq_nil_of_length_eq_zero (by omega)

theorem unhanded (ticket : Nat) : ticket ∉ s.2.gate.handed := by
  rw [h.handed]
  exact List.not_mem_nil

theorem borrow_eq (opened : s.2.closed = false) :
    borrow s = giveUp ({ s.1 with clock := s.1.clock + s.2.settings.maxWait.toNat }, s.2) := by
  rw [borrow, bind_apply, get_apply]
  dsimp only
  rw [if_neg (by simp [opened]), if_neg h.free]
  rfl

theorem expire_eq (time : Nat) (w : Waiter) :
    expire time (.waiting w) s =
      if w.deadline ≤ time then
        (.ok (.ended (.error (.poolExhausted s.2.settings.maxWait.toNat))),
          (exhaustedAt s, s.2.regate (.leave w.ticket)))
      else (.ok (.waiting w), s) := by
  rw [expire, bind_apply, get_apply]
  dsimp only
  by_cases late : w.deadline ≤ time
  · rw [if_pos ⟨late, h.unhanded w.ticket⟩, if_pos late]
    rfl
  · rw [if_neg fun both => late both.1, if_neg late]
    rfl

theorem shut (closed : s.2.closed = true) : Shut s.1.built s := ⟨closed, h.idle, Nat.le_refl _⟩

theorem borrow_unmoved : Unmoved s.2 (borrow s).2.2 := by
  cases opened : s.2.closed with
  | true =>
    rw [borrow_of_shut (h.shut opened)]
    exact .of_eq rfl
  | false =>
    rw [h.borrow_eq opened]
    exact .of_eq rfl

theorem begin_unmoved : Unmoved s.2 (begin s).2.2 := by
  cases opened : s.2.closed with
  | true =>
    rw [begin_of_shut (h.shut opened)]
    exact .of_eq rfl
  | false =>
    rw [begin_eq_waiting opened h.free]
    rfl

theorem close_unmoved : Unmoved s.2 (close s).2.2 := by
  have closed : close s = Action.forEach s.2.idle (fun e => discard e.member)
      (s.1, { s.2 with closed := true, idle := [] }) := rfl
  rw [closed, h.idle, Unmoved]
  simp only [Action.forEach, pure_apply, h.idle]

end Spent

namespace Usage

variable {c : PoolSettings} {first : Nat} {lost : List Nat} {u : Usage σ κ}

/-- Without a return nothing is there to be had. -/
theorem unmoved_step (h : Spent u.place.2) {m : Move σ} (stays : ∀ n, m ≠ .giveBack n) :
    Unmoved u.place.2 (u.step m).place.2 := by
  cases m with
  | borrow =>
    rw [step, progress_place, ended_snd]
    exact h.borrow_unmoved
  | begin =>
    rw [step, progress_place]
    exact h.begin_unmoved
  | resume n =>
    rw [step]
    rcases goOn_place u n Pool.resume with same | ⟨w, place⟩
    · exact .of_eq (congrArg Prod.snd same)
    · rw [place, resume_eq_waiting (h.unhanded w.ticket)]
      exact .of_eq rfl
  | expire n =>
    rw [step]
    rcases goOn_place u n (Pool.expire u.place.1.clock) with same | ⟨w, place⟩
    · exact .of_eq (congrArg Prod.snd same)
    · rw [place, h.expire_eq]
      split <;> rfl
  | giveBack n => exact absurd rfl (stays n)
  | close => exact h.close_unmoved
  | wait ms => exact .of_eq rfl
  | turn resource => exact .of_eq rfl

theorem unmoved_run (h : Spent u.place.2) {moves : List (Move σ)}
    (stays : ∀ n, .giveBack n ∉ moves) : Unmoved u.place.2 (u.run moves).place.2 := by
  induction moves generalizing u with
  | nil => exact .of_eq rfl
  | cons m moves ih =>
    have first := unmoved_step h fun n same => stays n (same ▸ List.mem_cons_self)
    have later := ih (h.of_unmoved first) fun n hn => stays n (List.mem_cons_of_mem m hn)
    exact first.trans later

/-- What becomes of a borrow that finds all instances lent out. On its own it waits in vain. While
others use the pool it waits on, as long as none of them gives an instance back, until it gives up at
its deadline and leaves the queue. -/
structure Starves (c : PoolSettings) (u : Usage σ κ) : Prop where
  alone : Pool.borrow u.place = (.error (.error (.poolExhausted c.maxWait.toNat)),
    (exhaustedAt ({ u.place.1 with clock := u.place.1.clock + c.maxWait.toNat }, u.place.2),
      u.place.2))
  waits : Pool.begin u.place =
    (.ok (.waiting ⟨u.place.2.gate.ticket, u.place.1.clock + c.maxWait.toNat⟩),
      (u.place.1, u.place.2.regate .join))
  traceless : (u.place.2.regate .join).regate (.leave u.place.2.gate.ticket) = u.place.2
  unmoved {moves : List (Move σ)} (stays : ∀ n, .giveBack n ∉ moves) :
    Unmoved u.place.2 (u.run moves).place.2
  waitsOn {moves : List (Move σ)} (stays : ∀ n, .giveBack n ∉ moves) (w : Waiter) :
    Pool.resume (.waiting w) (u.run moves).place = (.ok (.waiting w), (u.run moves).place)
  givesUp {moves : List (Move σ)} (stays : ∀ n, .giveBack n ∉ moves) (w : Waiter) :
    Pool.expire (u.run moves).place.1.clock (.waiting w) (u.run moves).place =
      if w.deadline ≤ (u.run moves).place.1.clock then
        (.ok (.ended (.error (.poolExhausted c.maxWait.toNat))),
          (exhaustedAt (u.run moves).place, (u.run moves).place.2.regate (.leave w.ticket)))
      else (.ok (.waiting w), (u.run moves).place)

theorem starves_of_spent (h : Spent u.place.2) (opened : u.place.2.closed = false)
    (settings : u.place.2.settings = c) : u.Starves c where
  alone := by
    rw [h.borrow_eq opened, giveUp_apply, settings]
  waits := by
    rw [begin_eq_waiting opened h.free, settings]
  traceless := by
    rw [regate, regate, Semaphore.leave_join]
  unmoved := unmoved_run h
  waitsOn stays w := resume_eq_waiting ((h.of_unmoved (unmoved_run h stays)).unhanded w.ticket)
  givesUp {moves} stays w := by
    rw [(h.of_unmoved (unmoved_run h stays)).expire_eq, (unmoved_run h stays).settings, settings]

/-- What a borrow comes to that begins now, or that waited and goes on now. While fewer are out than
there may be, a permit is free or was handed to a borrow that waits. Whoever has a permit to take
takes its turn with the idle instances; whoever has none waits behind the others. -/
structure Lends (c : PoolSettings) (u : Usage σ κ) : Prop where
  settings : u.place.2.settings = c
  dated : Dated u.place
  distinct : (ids u.place.2.idle).Nodup
  queued : u.Queued
  room : u.out.length < c.maxObjects.toNat →
    0 < u.place.2.gate.free ∨ ∃ w ∈ u.waiting, w.ticket ∈ u.place.2.gate.handed
  free : 0 < u.place.2.gate.free →
    Turns .take u.place (Pool.borrow u.place).1 (Pool.borrow u.place).2 ∧
      Pool.begin u.place = ended Pool.borrow u.place
  handed {w : Waiter} : w.ticket ∈ u.place.2.gate.handed →
    Turns (.claim w.ticket) u.place (enter (.claim w.ticket) u.place).1
        (enter (.claim w.ticket) u.place).2 ∧
      Pool.resume (.waiting w) u.place = ended (enter (.claim w.ticket)) u.place
  behind : ¬0 < u.place.2.gate.free → Pool.begin u.place =
    (.ok (.waiting ⟨u.place.2.gate.ticket, u.place.1.clock + c.maxWait.toNat⟩),
      (u.place.1, u.place.2.regate .join))
  full : u.out.length = c.maxObjects.toNat → u.Starves c

theorem Kept.lends (h : u.Kept c first lost) (queued : u.Queued)
    (opened : u.place.2.closed = false) (dated : Dated u.place) : u.Lends c where
  settings := h.books.settings
  dated := dated
  distinct := by
    rw [List.nodup_iff_count_le_one]
    intro id
    have sound := h.sound queued
    have once := Nat.le_trans (sound.placed_once id) (sound.constructed_once id)
    rw [places] at once
    omega
  queued := queued
  room fewer := by
    have permits : u.place.2.gate.free + u.place.2.gate.handed.length =
      c.maxObjects.toNat - u.out.length := h.books.permits
    cases handed : u.place.2.gate.handed with
    | nil =>
      rw [handed, List.length_nil] at permits
      exact .inl (by omega)
    | cons ticket rest =>
      have waits : ticket ∈ u.place.2.gate.tickets := by
        rw [Semaphore.tickets, handed]
        exact List.mem_append_right _ List.mem_cons_self
      obtain ⟨w, hw, same⟩ := List.mem_map.mp (queued.tickets.mem_iff.mp waits)
      exact .inr ⟨w, hw, same ▸ List.mem_cons_self⟩
  free some := by
    refine ⟨?_, begin_eq_ended opened some⟩
    rw [borrow_eq_enter opened some]
    exact enter_turns .take dated.ordered
  handed given := ⟨enter_turns _ dated.ordered, resume_eq_ended given⟩
  behind none := by
    rw [begin_eq_waiting opened none, h.books.settings]
    rfl
  full all := by
    have permits : u.place.2.permits = c.maxObjects.toNat - u.out.length := h.books.permits
    have room : u.place.2.idle.length ≤ c.maxObjects.toNat - u.out.length := h.books.room
    have spent : Spent u.place.2 := by
      refine ⟨by omega, List.eq_nil_of_length_eq_zero ?_⟩
      omega
    exact starves_of_spent spent opened h.books.settings

theorem start_dated {factory : Factory σ κ} {properties : Fields} {p : Pool σ κ}
    (new : Pool.new factory properties c = .ok p) (site : Site σ κ) :
    Dated (start p site).place := by
  rw [Pool.new] at new
  split at new
  · cases new
  · cases new
    exact ⟨List.Pairwise.nil, fun _ he => absurd he List.not_mem_nil⟩

/-- Whatever was done with an open pool before. -/
theorem lends_of_run {factory : Factory σ κ} {properties : Fields} {p : Pool σ κ}
    (new : Pool.new factory properties c = .ok p) (site : Site σ κ) (moves : List (Move σ))
    (opened : ((start p site).run moves).place.2.closed = false) :
    ((start p site).run moves).Lends c := by
  obtain ⟨lost, kept⟩ := (start_kept new site).run moves
  exact kept.lends (queued_run (start_queued new site) moves) opened
    (dated_run (start_dated new site) moves)

end Usage

/-- A connector whose first probe for life fails. -/
def frailScript : ConnectorScript where
  key := ⟨"frail", "1", "Frail"⟩
  faults := [("check_alive", [some (.error .authenticationFailed)])]

def roomySettings : PoolSettings where
  maxObjects := 3
  maxIdle := 3
  minIdle := 1
  maxWait := 1000
  minEvictableIdle := 500

def frailPool : Pool Resources Filter :=
  ⟨frailScript.factory 0, [], roomySettings, ⟨3, [], []⟩, [], false⟩

def frailSite : Site Resources Filter := { resource := [Resource.ofScript frailScript] }

/-- All are lent out. -/
def frailLent : List (Move Resources) := [.begin, .begin, .begin]

/-- All come back, the first of them long ago. -/
def frailReturned : List (Move Resources) :=
  [.begin, .begin, .begin, .giveBack 2, .wait 600, .giveBack 1, .giveBack 0]

/-- One comes back while a borrow waits for it. -/
def frailHandedOver : List (Move Resources) := [.begin, .begin, .begin, .begin, .giveBack 0]

/-- The first is evicted, the last proves dead, and the one between them is handed out. With all lent
out a borrow is in vain. One that waited takes the permit it was handed. -/
theorem lends_of_frail_run :
    Pool.new (frailScript.factory 0) [] roomySettings = .ok frailPool ∧
      ∃ returned lent handedOver : Usage Resources Filter,
        returned = (Usage.start frailPool frailSite).run frailReturned ∧
        lent = (Usage.start frailPool frailSite).run frailLent ∧
        handedOver = (Usage.start frailPool frailSite).run frailHandedOver ∧
        returned.place.2.closed = false ∧ returned.Lends roomySettings ∧
        Turns .take returned.place (borrow returned.place).1 (borrow returned.place).2 ∧
        ids (dueAt returned.place) = [0] ∧ ids (keptAt returned.place) = [1, 2] ∧
        (returned.step .borrow).outIds = [1] ∧
        lent.place.2.closed = false ∧ lent.Starves roomySettings ∧
        handedOver.place.2.closed = false ∧ handedOver.place.2.gate.handed = [0] ∧
        resume (.waiting ⟨0, 1000⟩) handedOver.place =
          ended (enter (.claim 0)) handedOver.place := by
  have new : Pool.new (frailScript.factory 0) [] roomySettings = .ok frailPool := rfl
  have opened : ((Usage.start frailPool frailSite).run frailReturned).place.2.closed = false := by
    decide +kernel
  have still : ((Usage.start frailPool frailSite).run frailLent).place.2.closed = false := by
    decide +kernel
  have yet : ((Usage.start frailPool frailSite).run frailHandedOver).place.2.closed = false := by
    decide +kernel
  have lends := Usage.lends_of_run new frailSite frailReturned opened
  have starves := Usage.lends_of_run new frailSite frailLent still
  have claims := Usage.lends_of_run new frailSite frailHandedOver yet
  refine ⟨new, _, _, _, rfl, rfl, rfl, opened, lends, (lends.free ?_).1, ?_, ?_, ?_, still,
    starves.full ?_, yet, ?_, (claims.handed (w := ⟨0, 1000⟩) ?_).2⟩
  all_goals decide +kernel

end ConnectorHub.Pool
