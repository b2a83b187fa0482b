import ConnectorHub.Proofs.Action.Keeps
import ConnectorHub.Proofs.Pool.Usage

namespace ConnectorHub

open ConnectorHub.Action

variable {σ κ : Type} {first : Nat}

/-- At least so many instances were made. -/
def Site.Opened (first : Nat) (s : Site σ κ) : Prop := first ≤ s.built

theorem Site.write_opened (e : Entry κ) : Keeps (Opened (σ := σ) first) (write e) :=
  Keeps.modify fun _ hs => hs

theorem Connector.call_opened (c : Connector σ κ) (id : Nat) (x : Call) :
    Keeps (Site.Opened first) (c.call id x) :=
  (Site.write_opened _).bind fun _ => Keeps.zoom fun _ hs => hs

theorem Connector.probe_opened (c : Connector σ κ) (id : Nat) (capabilities : List Capability)
    (found : CapabilitySet) : Keeps (Site.Opened first) (c.probe id capabilities found) := by
  induction capabilities generalizing found with
  | nil => exact .pure found
  | cons capability rest ih =>
    have asks : Keeps (Site.Opened first) (c.asks id capability) := Keeps.zoom fun _ hs => hs
    exact asks.bind fun has => ih _

/-- A new instance has a new number. -/
theorem Instance.create_opened (f : Factory σ κ) (properties : Fields) :
    Triple (Site.Opened first) (create f properties) (fun i s => first ≤ i.id ∧ s.Opened first)
      fun _ => Site.Opened first := by
  have constructs : Triple (Site.Opened (σ := σ) (κ := κ) first) (Site.construct f.tag)
      (fun id s => first ≤ id ∧ s.Opened first) fun _ => Site.Opened first :=
    fun _ hs => ⟨hs, Nat.le_succ_of_le hs⟩
  apply Triple.bind constructs
  intro id
  apply Triple.of_and
  intro new
  apply Triple.bind (f.connector.call_opened id _).attempt.triple
  intro result
  cases result with
  | ok done =>
    apply Triple.bind (f.connector.probe_opened id Capability.all .empty).triple
    exact fun _ _ hs => ⟨new, hs⟩
  | error e =>
    apply Triple.bind (f.connector.call_opened id _).attempt.triple
    intro disposed
    cases disposed with
    | ok done => exact Triple.fail fun _ hs => hs
    | error e =>
      exact Triple.bind (Site.write_opened _).triple fun _ => Triple.fail fun _ hs => hs

namespace Pool

/-- The pool is closed and empty, and at least so many instances were made. -/
structure Shut (first : Nat) (s : At σ κ) : Prop where
  closed : s.2.closed = true
  empty : s.2.idle = []
  opened : s.1.Opened first

theorem Shut.mono {s : At σ κ} {earlier : Nat} (h : Shut first s) (le : earlier ≤ first) :
    Shut earlier s :=
  ⟨h.closed, h.empty, Nat.le_trans le h.opened⟩

theorem notes_shut (s : Site σ κ) (p : Pool σ κ) (m : Note) (h : Shut first (s, p)) :
    Shut first ({ s with journal := s.journal ++ [.noted m] }, p) :=
  ⟨h.closed, h.empty, h.opened⟩

theorem note_shut (n : ConnectorKey → Note) : Keeps (Shut (σ := σ) (κ := κ) first) (note n) :=
  fun _ hs => ⟨hs.closed, hs.empty, hs.opened⟩

theorem dispose_shut (i : Instance σ κ) :
    Keeps (Shut first) (Action.onFirst i.dispose : Action (At σ κ) Unit) :=
  Keeps.onFirst fun _ s hs =>
    ⟨hs.closed, hs.empty, i.connector.call_opened i.id .dispose s hs.opened⟩

theorem discard_shut (i : Instance σ κ) : Keeps (Shut first) (discard i) := by
  refine (dispose_shut i).attempt.bind fun result => ?_
  cases result with
  | ok done => exact .pure ()
  | error e => exact note_shut _

theorem regate_shut (f : Semaphore → Semaphore) :
    Keeps (Shut (σ := σ) (κ := κ) first) (update (regate f)) :=
  Keeps.modify fun _ hs => ⟨hs.closed, hs.empty, hs.opened⟩

/-- An instance that a closed pool hands out is a new one. -/
theorem enter_shut (take : Semaphore → Semaphore) :
    Triple (Shut (σ := σ) (κ := κ) first) (enter take) (fun i s => first ≤ i.id ∧ Shut first s)
      fun _ => Shut first := by
  have creates : Triple (Shut (σ := σ) (κ := κ) first) createPooled
      (fun i s => first ≤ i.id ∧ Shut first s) fun _ => Shut first := by
    apply Triple.bind (note_shut _).triple
    intro _
    apply Triple.get_bind
    intro s hs
    refine (Triple.onFirst (P := Shut first) fun p => ?_).pre fun _ same => same ▸ hs
    intro site ht
    have created := Instance.create_opened s.2.factory s.2.properties site ht.opened
    generalize Instance.create s.2.factory s.2.properties site = ended at created ⊢
    obtain ⟨result, t⟩ := ended
    cases result with
    | ok i => exact ⟨created.1, ht.closed, ht.empty, created.2⟩
    | error why => exact ⟨ht.closed, ht.empty, created⟩
  apply Triple.bind (regate_shut take).triple
  intro _
  apply Triple.get_bind
  intro s hs
  apply Triple.onStop
  have none : s.2.idle.length = 0 := by rw [hs.empty, List.length_nil]
  rw [none]
  refine (creates.postStop fun why t ht => ?_).pre fun _ same => same ▸ hs
  exact ⟨ht.closed, ht.empty, ht.opened⟩

theorem borrow_of_shut {s : At σ κ} (h : Shut first s) :
    borrow s = (.error (.error closedError), s) := by
  rw [borrow, bind_apply, get_apply]
  simp only [h.closed, if_true, fail_apply]

theorem begin_of_shut {s : At σ κ} (h : Shut first s) :
    begin s = (.ok (.ended (.error closedError)), s) := by
  rw [begin, bind_apply, get_apply]
  simp only [h.closed, if_true, pure_apply]

theorem borrow_shut : Keeps (Shut (σ := σ) (κ := κ) first) borrow := by
  intro s hs
  rw [borrow_of_shut hs]
  exact hs

theorem begin_shut : Keeps (Shut (σ := σ) (κ := κ) first) begin := by
  intro s hs
  rw [begin_of_shut hs]
  exact hs

/-- What a borrow of a closed pool may have come to: an instance only if it is a new one. -/
def Progress.Late (first : Nat) : Progress σ κ → Prop
  | .ended (.ok i) => first ≤ i.id
  | _ => True

theorem ended_shut {x : Action (At σ κ) (Instance σ κ)}
    (hx : Triple (Shut first) x (fun i s => first ≤ i.id ∧ Shut first s) fun _ => Shut first) :
    Triple (Shut first) (ended x) (fun progress s => progress.Late first ∧ Shut first s)
      fun _ => Shut first := by
  refine Triple.bind (Q := fun result s => Progress.Late first (.ended result) ∧ Shut first s) ?_
    fun _ => Triple.pure fun _ => id
  exact hx.attempt (fun _ _ hs => ⟨trivial, hs⟩) fun _ _ _ hs => hs

theorem resume_shut (w : Waiter) :
    Triple (Shut (σ := σ) (κ := κ) first) (resume (.waiting w))
      (fun progress s => progress.Late first ∧ Shut first s) fun _ => Shut first := by
  apply Triple.get_bind
  intro s hs
  dsimp only
  split
  · exact (ended_shut (enter_shut _)).pre fun _ same => same ▸ hs
  · exact Triple.pure fun _ same => ⟨trivial, same ▸ hs⟩

theorem expire_shut (time : Nat) (w : Waiter) :
    Triple (Shut (σ := σ) (κ := κ) first) (expire time (.waiting w))
      (fun progress s => progress.Late first ∧ Shut first s) fun _ => Shut first := by
  have leaves : Triple (Shut (σ := σ) (κ := κ) first) (withdraw w)
      (fun i s => first ≤ i.id ∧ Shut first s) fun _ => Shut first := by
    apply Triple.bind (regate_shut _).triple
    -- Giving up never yields an instance.
    exact fun _ s hs => ⟨hs.closed, hs.empty, hs.opened⟩
  apply Triple.get_bind
  intro s hs
  dsimp only
  split
  · exact (ended_shut leaves).pre fun _ same => same ▸ hs
  · exact Triple.pure fun _ same => ⟨trivial, same ▸ hs⟩

theorem giveBack_shut (i : Instance σ κ) : Keeps (Shut first) (giveBack i) := by
  intro s hs
  rw [giveBack, bind_apply, get_apply]
  dsimp only
  rw [if_pos (.inl hs.closed)]
  exact ((regate_shut .release).bind fun _ => dispose_shut i) s hs

theorem goOn_shut {x : Action (At σ κ) (Progress σ κ)}
    (hx : Triple (Shut first) x (fun progress s => progress.Late first ∧ Shut first s)
      fun _ => Shut first) : Keeps (Shut first) x :=
  .of_triple (hx.post fun _ _ hs => hs.2)

/-- Whatever the disposals of the idle instances come to. -/
theorem close_shut (s : At σ κ) : Shut s.1.built (close s).2 := by
  have emptied : Shut s.1.built (s.1, { s.2 with closed := true, idle := [] }) :=
    ⟨rfl, rfl, Nat.le_refl s.1.built⟩
  exact Keeps.forEach (fun e : IdleInstance σ κ => discard_shut e.member) s.2.idle _ emptied

namespace Usage

variable {v u : Usage σ κ}

/-- What has become of a usage `v` in which the pool was closed: what was out at the closing and
did not come back is out still; besides it only instances that were made since then, one at most for
each borrow that waited at the closing and waits no more. -/
structure After (v u : Usage σ κ) : Prop where
  shut : Shut v.place.1.built u.place
  out : ∃ late, u.out.Sublist (late ++ v.out) ∧
    late.length + u.waiting.length ≤ v.waiting.length ∧ ∀ i ∈ late, v.place.1.built ≤ i.id

theorem After.goOn (h : v.After u) (n : Nat) {x : Progress σ κ → Action (At σ κ) (Progress σ κ)}
    (hx : ∀ w, Triple (Shut v.place.1.built) (x (.waiting w))
      (fun progress s => progress.Late v.place.1.built ∧ Shut v.place.1.built s)
      fun _ => Shut v.place.1.built) : v.After (u.goOn n x) := by
  unfold Usage.goOn
  split
  · next w waits =>
    obtain ⟨late, sub, fewer, new⟩ := h.out
    have one := List.length_eraseIdx_add_one (List.getElem?_eq_some_iff.mp waits).1
    cases run : x (.waiting w) u.place with
    | mk result t =>
      cases result with
      | error why =>
        exact ⟨(hx w).error h.shut run, late, sub, by simp only [Usage.progress]; omega, new⟩
      | ok progress =>
        obtain ⟨isNew, shut⟩ := (hx w).ok h.shut run
        cases progress with
        | waiting w' =>
          exact ⟨shut, late, sub, by simp only [Usage.progress, List.length_cons]; omega, new⟩
        | ended result =>
          cases result with
          | error e => exact ⟨shut, late, sub, by simp only [Usage.progress]; omega, new⟩
          | ok i =>
            refine ⟨shut, i :: late, sub.cons_cons i, ?_, ?_⟩
            · simp only [Usage.progress, List.length_cons]
              omega
            · exact List.forall_mem_cons.mpr ⟨isNew, new⟩
  · exact h

theorem After.step (h : v.After u) (m : Move σ) : v.After (u.step m) := by
  cases m with
  | borrow =>
    rw [Usage.step, ended, bind_apply, Action.attempt, borrow_of_shut h.shut]
    exact h
  | begin =>
    rw [Usage.step, begin_of_shut h.shut]
    exact h
  | resume n => exact h.goOn n resume_shut
  | expire n => exact h.goOn n (expire_shut _)
  | giveBack n =>
    rw [Usage.step]
    split
    · next i _ =>
      obtain ⟨late, sub, fewer, new⟩ := h.out
      have returned := (List.eraseIdx_sublist u.out n).trans sub
      exact ⟨giveBack_shut i u.place h.shut, late, returned, fewer, new⟩
    · exact h
  | close => exact ⟨(close_shut u.place).mono h.shut.opened, h.out⟩
  | wait ms => exact ⟨⟨h.shut.closed, h.shut.empty, h.shut.opened⟩, h.out⟩
  | turn resource => exact ⟨⟨h.shut.closed, h.shut.empty, h.shut.opened⟩, h.out⟩

theorem After.run (h : v.After u) (moves : List (Move σ)) : v.After (u.run moves) := by
  induction moves generalizing u with
  | nil => exact h
  | cons m moves ih => exact ih (h.step m)

theorem step_close_after (u : Usage σ κ) : (u.step .close).After (u.step .close) where
  shut := ⟨(close_shut u.place).closed, (close_shut u.place).empty, Nat.le_refl _⟩
  out := ⟨[], List.Sublist.refl _, Nat.le_of_eq (Nat.zero_add _), fun _ hi => nomatch hi⟩

/-- Whatever is done with a pool after it was closed, it refuses every borrow that begins, and only
borrows that waited at the closing come to an instance, each to a new one. -/
theorem after_close (u : Usage σ κ) (moves : List (Move σ)) :
    (u.step .close).After ((u.step .close).run moves) ∧
      Pool.borrow ((u.step .close).run moves).place =
        (.error (.error closedError), ((u.step .close).run moves).place) ∧
      Pool.begin ((u.step .close).run moves).place =
        (.ok (.ended (.error closedError)), ((u.step .close).run moves).place) := by
  have after := (step_close_after u).run moves
  exact ⟨after, borrow_of_shut after.shut, begin_of_shut after.shut⟩

end Usage

/-- A connector without faults. -/
def quietScript : ConnectorScript where
  key := ⟨"quiet", "1", "Quiet"⟩

def singlePool : Pool Resources Filter :=
  ⟨quietScript.factory 0, [], singleSettings, ⟨1, [], []⟩, [], false⟩

example : Pool.new (quietScript.factory 0) [] singleSettings = .ok singlePool := rfl

def quietSite : Site Resources Filter := { resource := [Resource.ofScript quietScript] }

/-- One instance is out and a borrow waits for it. -/
def singleInUse : Usage Resources Filter := (Usage.start singlePool quietSite).run [.begin, .begin]

/-- A closed pool may hand out an instance: it is closed while a borrow waits, and a return lets the
borrow go on. -/
theorem hands_out_after_close :
    ¬∀ (u : Usage Resources Filter) (moves : List (Move Resources)),
      ((u.step .close).run moves).outIds.Sublist (u.step .close).outIds := by
  intro nothing
  have out := nothing singleInUse [.giveBack 0, .resume 0]
  have atClosing : (singleInUse.step .close).outIds = [0] := by decide +kernel
  have later : ((singleInUse.step .close).run [.giveBack 0, .resume 0]).outIds = [1] := by
    decide +kernel
  rw [atClosing, later] at out
  exact absurd out (by decide)

end Pool

end ConnectorHub
