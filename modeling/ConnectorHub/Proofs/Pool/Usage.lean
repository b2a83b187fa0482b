import ConnectorHub.Proofs.Pool.Custody
import ConnectorHub.Proofs.Pool.Queue
import ConnectorHub.Scripted.Connector

namespace ConnectorHub.Pool

variable {σ κ : Type}

/-- What happens next. Borrows that wait and instances that are out are told by their positions. -/
inductive Move (σ : Type) where
  /-- A borrow that waits in vain where it has to wait. -/
  | borrow
  | begin
  | resume (n : Nat)
  /-- A borrow gives up if its deadline has come. -/
  | expire (n : Nat)
  | giveBack (n : Nat)
  | close
  | wait (ms : Nat)
  /-- The resource changes, and with it what the connector will answer. -/
  | turn (resource : σ)

/-- A pool in use by many: the pool, the instances that are out, the borrows that wait, and whether a
call was cut short. -/
structure Usage (σ κ : Type) where
  place : At σ κ
  out : List (Instance σ κ) := []
  waiting : List Waiter := []
  cut : Bool := false

def cutBy {α : Type} : Except Stop α → Bool
  | .ok _ => false
  | .error why => why.abrupt

namespace Usage

def start (p : Pool σ κ) (site : Site σ κ) : Usage σ κ := { place := ({ site with journal := [] }, p) }

/-- How far a borrow got. -/
def progress (u : Usage σ κ) : Except Stop (Progress σ κ) × At σ κ → Usage σ κ
  | (.ok (.waiting w), t) => { u with place := t, waiting := w :: u.waiting }
  | (.ok (.ended (.ok i)), t) => { u with place := t, out := i :: u.out }
  | (.ok (.ended (.error _)), t) => { u with place := t }
  | (.error why, t) => { u with place := t, cut := u.cut || why.abrupt }

/-- Goes on with a borrow that waits. -/
def goOn (u : Usage σ κ) (n : Nat) (x : Progress σ κ → Action (At σ κ) (Progress σ κ)) : Usage σ κ :=
  match u.waiting[n]? with
  | some w => { u with waiting := u.waiting.eraseIdx n }.progress (x (.waiting w) u.place)
  | none => u

def step (u : Usage σ κ) : Move σ → Usage σ κ
  | .borrow => u.progress (ended Pool.borrow u.place)
  | .begin => u.progress (Pool.begin u.place)
  | .resume n => u.goOn n Pool.resume
  | .expire n => u.goOn n (Pool.expire u.place.1.clock)
  | .giveBack n =>
    match u.out[n]? with
    | some i =>
      let (result, t) := Pool.giveBack i u.place
      { u with place := t, out := u.out.eraseIdx n, cut := u.cut || cutBy result }
    | none => u
  | .close =>
    let (result, t) := Pool.close u.place
    { u with place := t, cut := u.cut || cutBy result }
  | .wait ms =>
    { u with place := ({ u.place.1 with clock := u.place.1.clock + ms }, u.place.2) }
  | .turn resource => { u with place := ({ u.place.1 with resource := resource }, u.place.2) }

def run (u : Usage σ κ) (moves : List (Move σ)) : Usage σ κ := moves.foldl step u

def outIds (u : Usage σ κ) : List Nat := u.out.map Instance.id

/-- In how many places an instance is: idle, out or disposed of. -/
def places (u : Usage σ κ) (id : Nat) : Nat :=
  (ids u.place.2.idle).count id + u.outIds.count id + Entry.disposals id u.place.1.journal

def account (u : Usage σ κ) (c : PoolSettings) (first : Nat) (lost : List Nat) : Account where
  settings := c
  permits := c.maxObjects.toNat - u.out.length
  room := c.maxObjects.toNat - u.out.length
  limit := c.maxIdle.toNat
  first := first
  held := u.outIds
  lost := lost

/-- The books balance, with a permit taken for each instance that is out. -/
structure Kept (c : PoolSettings) (first : Nat) (u : Usage σ κ) (lost : List Nat) : Prop where
  enough : u.out.length ≤ c.maxObjects.toNat
  books : (u.account c first lost).Of u.place
  spared : u.cut = false → lost = []

variable {c : PoolSettings} {first : Nat} {lost : List Nat} {u : Usage σ κ}

/-- Of a call that stopped without having handed out anything. -/
theorem Kept.stopped (h : u.Kept c first lost) {why : Stop} {t : At σ κ}
    (after : (u.account c first lost).After why t) :
    ∃ lost, Kept c first { u with place := t, cut := u.cut || why.abrupt } lost := by
  obtain ⟨more, none, books⟩ := after.exists_lost
  refine ⟨more ++ lost, h.enough, books, fun whole => ?_⟩
  obtain ⟨before, settled⟩ := Bool.or_eq_false_iff.mp whole
  rw [none settled, h.spared before, List.nil_append]

theorem Kept.progress (h : u.Kept c first lost) {x : Action (At σ κ) (Progress σ κ)}
    (hx : Action.Triple (fun s => (u.account c first lost).Of s) x
      (fun progress s => (u.account c first lost).Met progress s)
      fun why s => (u.account c first lost).After why s) :
    ∃ lost, (u.progress (x u.place)).Kept c first lost := by
  cases run : x u.place with
  | mk result t =>
    cases result with
    | ok progress =>
      have met := hx.ok h.books run
      cases progress with
      | waiting w => exact ⟨lost, h.enough, met, h.spared⟩
      | ended result =>
        cases result with
        | error e => exact ⟨lost, h.enough, met, h.spared⟩
        | ok i =>
          obtain ⟨free, lent⟩ := met
          have enough : u.out.length + 1 ≤ c.maxObjects.toNat := by
            simp only [account] at free
            omega
          exact ⟨lost, enough, lent, h.spared⟩
    | error why =>
      exact (h.stopped (hx.error h.books run) : ∃ lost, Kept c first { u with
        place := t, cut := u.cut || why.abrupt } lost)

theorem Kept.goOn (h : u.Kept c first lost) (n : Nat)
    {x : Progress σ κ → Action (At σ κ) (Progress σ κ)}
    (hx : ∀ w, Action.Triple (fun s => (u.account c first lost).Of s) (x (.waiting w))
      (fun progress s => (u.account c first lost).Met progress s)
      fun why s => (u.account c first lost).After why s) :
    ∃ lost, (u.goOn n x).Kept c first lost := by
  unfold Usage.goOn
  split
  · next w _ =>
    have still : Kept c first { u with waiting := u.waiting.eraseIdx n } lost := { h with }
    exact still.progress (hx w)
  · exact ⟨lost, h⟩

/-- Of a call that hands out nothing, whatever its result. -/
theorem Kept.ended {α : Type} (h : u.Kept c first lost) {result : Except Stop α} {t : At σ κ}
    (books : match result with
      | .ok _ => (u.account c first lost).Of t
      | .error why => (u.account c first lost).After why t) :
    ∃ lost, Kept c first { u with place := t, cut := u.cut || cutBy result } lost := by
  cases result with
  | ok done => exact ⟨lost, h.enough, books, by simpa [cutBy] using h.spared⟩
  | error why => exact h.stopped books

theorem Kept.giveBack (h : u.Kept c first lost) {n : Nat} {i : Instance σ κ}
    (hi : u.out[n]? = some i) : Kept c first { u with
      place := (Pool.giveBack i u.place).2
      out := u.out.eraseIdx n
      cut := u.cut || cutBy (Pool.giveBack i u.place).1 } lost := by
  obtain ⟨hn, rfl⟩ := List.getElem?_eq_some_iff.mp hi
  have enough := h.enough
  have fewer := List.length_eraseIdx_add_one hn
  have members : u.outIds.Perm (u.out[n].id :: (u.out.eraseIdx n).map Instance.id) :=
    (List.getElem_cons_eraseIdx_perm hn).symm.map _
  have held : (({ u.account c first lost with
      held := (u.out.eraseIdx n).map Instance.id }).hold [u.out[n].id]).Of u.place :=
    h.books.regroup members
  have back := giveBack_custody u.out[n] (Nat.le_refl _) trivial u.place held
  have books {t : At σ κ} (ht : (({ u.account c first lost with
      held := (u.out.eraseIdx n).map Instance.id }).restore).Of t) :
      (account { u with out := u.out.eraseIdx n } c first lost).Of t := by
    refine { ht with permits := ht.permits.trans ?_, room := Nat.le_trans ht.room ?_ }
    · simp only [Account.restore, account]
      omega
    · simp only [Account.restore, account]
      omega
  have still : (u.out.eraseIdx n).length ≤ c.maxObjects.toNat := by omega
  generalize Pool.giveBack u.out[n] u.place = ended at back ⊢
  obtain ⟨result, t⟩ := ended
  have spared : (u.cut || cutBy result) = false → lost = [] := fun hc =>
    h.spared (Bool.or_eq_false_iff.mp hc).1
  cases result with
  | ok done => exact ⟨still, books back, spared⟩
  | error why => exact ⟨still, books back, spared⟩

theorem Kept.step (h : u.Kept c first lost) (m : Move σ) :
    ∃ lost, (u.step m).Kept c first lost := by
  cases m with
  | borrow => exact h.progress (ended_custody borrow_custody)
  | begin => exact h.progress begin_custody
  | resume n => exact h.goOn n resume_custody
  | expire n => exact h.goOn n (expire_custody _)
  | giveBack n =>
    rw [Usage.step]
    split
    · next i hi => exact ⟨lost, h.giveBack hi⟩
    · exact ⟨lost, h⟩
  | close =>
    have closed := close_custody u.place h.books
    rw [Usage.step]
    generalize Pool.close u.place = ended at closed ⊢
    cases ended with
    | mk result t => cases result <;> exact h.ended closed
  | wait ms => exact ⟨lost, h.enough, h.books.onSite _ _, h.spared⟩
  | turn resource => exact ⟨lost, h.enough, h.books.onSite _ _, h.spared⟩

theorem Kept.run (h : u.Kept c first lost) (moves : List (Move σ)) :
    ∃ lost, (u.run moves).Kept c first lost := by
  induction moves generalizing u lost with
  | nil => exact ⟨lost, h⟩
  | cons m moves ih =>
    obtain ⟨lost, h⟩ := h.step m
    exact ih h

theorem start_kept {factory : Factory σ κ} {properties : Fields} {p : Pool σ κ}
    (new : Pool.new factory properties c = .ok p) (site : Site σ κ) :
    (start p site).Kept c site.built [] := by
  rw [Pool.new] at new
  split at new
  · cases new
  · cases new
    exact ⟨Nat.zero_le _, {
      settings := rfl
      permits := rfl
      room := Nat.zero_le _
      limit := Nat.zero_le _
      first := Nat.le_refl _
      opened := Nat.le_refl _
      known := fun _ => trivial
      numbered := fun id => (if_neg fun hid => Nat.not_lt.mpr hid.1 hid.2).symm
      balance := fun id => rfl }, fun _ => rfl⟩

/-- The borrows that wait are those that the gate knows of. -/
def Queued (u : Usage σ κ) : Prop := u.place.2.gate.Queues (u.waiting.map Waiter.ticket)

theorem queued_progress {P : At σ κ → Prop} {x : Action (At σ κ) (Progress σ κ)}
    (hx : Action.Triple P x
      (fun progress s => s.2.gate.Queues (progress.tickets ++ u.waiting.map Waiter.ticket))
      fun _ s => s.2.gate.Queues (u.waiting.map Waiter.ticket))
    (h : P u.place) : (u.progress (x u.place)).Queued := by
  cases run : x u.place with
  | mk result t =>
    cases result with
    | error why => exact hx.error h run
    | ok progress =>
      have queued := hx.ok h run
      cases progress with
      | waiting w => exact queued
      | ended result => cases result <;> exact queued

theorem queued_goOn (h : u.Queued) (n : Nat) {x : Progress σ κ → Action (At σ κ) (Progress σ κ)}
    (hx : ∀ (w : Waiter) waiting, Action.Triple (fun s => s.2.gate.Queues (w.ticket :: waiting))
      (x (.waiting w)) (fun progress s => s.2.gate.Queues (progress.tickets ++ waiting))
      fun _ s => s.2.gate.Queues waiting) : (u.goOn n x).Queued := by
  unfold Usage.goOn
  split
  · next w waits =>
    obtain ⟨hn, rfl⟩ := List.getElem?_eq_some_iff.mp waits
    have first := (List.getElem_cons_eraseIdx_perm hn).symm.map Waiter.ticket
    exact queued_progress (u := { u with waiting := u.waiting.eraseIdx n }) (hx _ _)
      (h.regroup first)
  · exact h

theorem queued_step (h : u.Queued) (m : Move σ) : (u.step m).Queued := by
  cases m with
  | borrow => exact queued_progress (ended_queues borrow_queues) h
  | begin => exact queued_progress begin_queues h
  | resume n => exact queued_goOn h n fun w _ => resume_queues w
  | expire n => exact queued_goOn h n fun w _ => expire_queues _ w
  | giveBack n =>
    rw [Usage.step]
    split
    · next i _ => exact giveBack_queues i u.place h
    · exact h
  | close => exact (gate_growing (·.Queues _)).close u.place h
  | wait ms => exact h
  | turn resource => exact h

theorem queued_run (h : u.Queued) (moves : List (Move σ)) : (u.run moves).Queued := by
  induction moves generalizing u with
  | nil => exact h
  | cons m moves ih => exact ih (queued_step h m)

theorem start_queued {factory : Factory σ κ} {properties : Fields} {p : Pool σ κ}
    (new : Pool.new factory properties c = .ok p) (site : Site σ κ) : (start p site).Queued := by
  rw [Pool.new] at new
  split at new
  · cases new
  · cases new
    exact ⟨.refl [], List.nodup_nil, fun _ => rfl⟩

/-- What holds of a pool whenever one looks. An instance that was constructed is idle, out or disposed
of, in one of these places only, unless a call was cut short, and there are no more of them than there
may be. As active count the instances that are out and the permits that were handed to borrows that
wait, each to one of them. -/
structure Sound (c : PoolSettings) (u : Usage σ κ) : Prop where
  constructed_once (id : Nat) : Entry.constructions id u.place.1.journal ≤ 1
  placed_once (id : Nat) : u.places id ≤ Entry.constructions id u.place.1.journal
  placed (id : Nat) : u.cut = false → u.places id = Entry.constructions id u.place.1.journal
  bounded : u.place.2.idle.length + u.out.length ≤ c.maxObjects.toNat
  idle : u.place.2.idle.length ≤ c.maxIdle.toNat
  active : u.place.2.stats.active = u.out.length + u.place.2.gate.handed.length
  queued : u.Queued
  quiet : u.waiting = [] → u.place.2.stats.active = u.out.length
  /-- A borrow that fails keeps no permit. -/
  failed {why : Stop} {t : At σ κ} : Pool.borrow u.place = (.error why, t) →
    t.2.stats.active = u.place.2.stats.active

theorem Kept.stats (h : u.Kept c first lost) :
    u.place.2.stats.active = u.out.length + u.place.2.gate.handed.length := by
  have enough := h.enough
  have permits : u.place.2.gate.unclaimed = c.maxObjects.toNat - u.out.length := h.books.permits
  have settings : u.place.2.settings = c := h.books.settings
  rw [Semaphore.unclaimed] at permits
  simp only [Pool.stats, settings]
  omega

theorem Queued.handed_eq_nil (h : u.Queued) (none : u.waiting = []) :
    u.place.2.gate.handed = [] := by
  have tickets := h.tickets
  rw [none] at tickets
  exact (List.append_eq_nil_iff.mp tickets.eq_nil).2

theorem Kept.sound (h : u.Kept c first lost) (queued : u.Queued) : u.Sound c where
  constructed_once id := by
    have numbered := h.books.numbered id
    by_cases hid : first ≤ id ∧ id < u.place.1.built
    · exact Nat.le_of_eq (numbered.trans (if_pos hid))
    · exact Nat.le_trans (Nat.le_of_eq (numbered.trans (if_neg hid))) (Nat.zero_le 1)
  placed_once id := by
    have balance := h.books.balance id
    simp only [account, Site.since_zero, List.count_nil, Nat.add_zero] at balance
    rw [places]
    omega
  placed id whole := by
    have balance := h.books.balance id
    simp only [account, Site.since_zero, h.spared whole, List.count_nil, Nat.add_zero] at balance
    rw [places]
    omega
  bounded := by
    have enough := h.enough
    have room : u.place.2.idle.length ≤ c.maxObjects.toNat - u.out.length := h.books.room
    omega
  idle := h.books.limit
  active := h.stats
  queued := queued
  quiet none := by
    rw [h.stats, queued.handed_eq_nil none, List.length_nil, Nat.add_zero]
  failed {why t} run := by
    have gate : t.2.gate = u.place.2.gate := borrow_gate.error ⟨rfl, queued.prompt⟩ run
    have settings : t.2.settings = u.place.2.settings :=
      (settings_lasting u.place.2.settings).borrow.triple.error rfl run
    rw [Pool.stats, Pool.stats, gate, settings]

/-- From an empty pool on, whatever is done in whatever order. -/
theorem sound_of_run {factory : Factory σ κ} {properties : Fields} {p : Pool σ κ}
    (new : Pool.new factory properties c = .ok p) (site : Site σ κ) (moves : List (Move σ)) :
    ((start p site).run moves).Sound c := by
  obtain ⟨lost, kept⟩ := (start_kept new site).run moves
  exact kept.sound (queued_run (start_queued new site) moves)

end Usage

/-- A connector whose first disposal, second probe for life and third initialization fail. -/
def failingScript : ConnectorScript where
  key := ⟨"failing", "1", "Failing"⟩
  faults := [("dispose", [some (.error .authenticationFailed)]),
    ("check_alive", [none, some (.error .authenticationFailed)]),
    ("init", [none, none, some (.error .authenticationFailed)])]

def tightSettings : PoolSettings where
  maxObjects := 2
  maxIdle := 1
  minIdle := 0
  maxWait := 1000
  minEvictableIdle := 500

def failingPool : Pool Resources Filter :=
  ⟨failingScript.factory 0, [], tightSettings, ⟨2, [], []⟩, [], false⟩

def failingSite : Site Resources Filter := { resource := [Resource.ofScript failingScript] }

/-- A borrow that waits, an idle instance too many, one that is dead, one that is made in vain and
one that grows stale. -/
def failingMoves : List (Move Resources) :=
  [.borrow, .begin, .begin, .giveBack 1, .resume 0, .giveBack 0, .giveBack 0, .borrow, .borrow,
    .giveBack 0, .wait 600, .borrow, .close, .borrow]

theorem sound_of_failing_run :
    Pool.new (failingScript.factory 0) [] tightSettings = .ok failingPool ∧
      ((Usage.start failingPool failingSite).run failingMoves).Sound tightSettings :=
  ⟨rfl, Usage.sound_of_run (rfl : Pool.new (failingScript.factory 0) [] _ = _) failingSite failingMoves⟩

def singleSettings : PoolSettings where
  maxObjects := 1
  maxIdle := 1
  minIdle := 0

/-- A connector whose first probe for life panics. -/
def brittleScript : ConnectorScript where
  key := ⟨"brittle", "1", "Brittle"⟩
  faults := [("check_alive", [some (.panic "brittle")])]

def brittlePool : Pool Resources Filter :=
  ⟨brittleScript.factory 0, [], singleSettings, ⟨1, [], []⟩, [], false⟩

def brittleSite : Site Resources Filter := { resource := [Resource.ofScript brittleScript] }

/-- A permit that was handed over is active though nothing is out, and an instance that panics at its
probe is in no place. -/
theorem misplaced_in_run :
    (¬∀ moves : List (Move Resources),
      ((Usage.start brittlePool brittleSite).run moves).place.2.stats.active =
        ((Usage.start brittlePool brittleSite).run moves).out.length) ∧
    ¬∀ (moves : List (Move Resources)) (id : Nat),
      ((Usage.start brittlePool brittleSite).run moves).places id = Entry.constructions id
        ((Usage.start brittlePool brittleSite).run moves).place.1.journal := by
  refine ⟨fun exact => ?_, fun placed => ?_⟩
  · exact absurd (exact [.begin, .begin, .giveBack 0]) (by decide +kernel)
  · exact absurd (placed [.borrow, .giveBack 0, .borrow] 0) (by decide +kernel)

end ConnectorHub.Pool
