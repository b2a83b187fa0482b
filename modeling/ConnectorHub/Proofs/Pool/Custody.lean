import ConnectorHub.Proofs.Pool.Account

namespace ConnectorHub

open ConnectorHub.Action
open Pool (Account)

variable {σ κ α : Type} {a : Account} {p : Pool σ κ}

namespace Site

theorem onResource_custody (x : Action σ α) :
    Triple (fun s : Site σ κ => a.Of (s, p)) (onResource x) (fun _ s => a.Of (s, p))
      fun _ s => a.Of (s, p) :=
  Triple.zoom fun _ hs => Triple.of_forall (fun _ t => hs.onSite _ t) fun _ t => hs.onSite _ t

theorem write_custody {e : Entry κ} (he : e.Quiet) {E : Stop → Site σ κ → Prop} :
    Triple (fun s : Site σ κ => a.Of (s, p)) (write e) (fun _ s => a.Of (s, p)) E :=
  Triple.modify fun _ hs => hs.write he

theorem note_custody (n : Note) {E : Stop → Site σ κ → Prop} :
    Triple (fun s : Site σ κ => a.Of (s, p)) (note n) (fun _ s => a.Of (s, p)) E :=
  write_custody (Entry.quiet_noted n)

end Site

namespace Connector

theorem call_custody (c : Connector σ κ) (id : Nat) {x : Call} (hx : x ≠ .dispose) :
    Triple (fun s : Site σ κ => a.Of (s, p)) (c.call id x) (fun _ s => a.Of (s, p))
      fun _ s => a.Of (s, p) :=
  Triple.bind (Site.write_custody (Entry.quiet_called hx)) fun _ => Site.onResource_custody _

theorem dispose_custody (c : Connector σ κ) (id : Nat) :
    Triple (fun s : Site σ κ => (a.hold [id]).Of (s, p)) (c.call id .dispose)
      (fun _ s => a.Of (s, p)) fun _ s => a.Of (s, p) :=
  Triple.bind (Triple.modify fun _ hs => hs.writeDispose) fun _ => Site.onResource_custody _

theorem asks_custody (c : Connector σ κ) (id : Nat) (capability : Capability)
    {E : Stop → Site σ κ → Prop} :
    Triple (fun s : Site σ κ => a.Of (s, p)) (c.asks id capability) (fun _ s => a.Of (s, p)) E :=
  fun s hs => hs.onSite s.clock _

theorem probe_custody (c : Connector σ κ) (id : Nat) (capabilities : List Capability)
    (found : CapabilitySet) {E : Stop → Site σ κ → Prop} :
    Triple (fun s : Site σ κ => a.Of (s, p)) (c.probe id capabilities found)
      (fun _ s => a.Of (s, p)) E := by
  induction capabilities generalizing found with
  | nil => exact Triple.pure fun _ hs => hs
  | cons capability rest ih => exact Triple.bind (c.asks_custody id capability) fun has => ih _

end Connector

namespace Instance

theorem construct_custody (maker : Nat) {E : Stop → Site σ κ → Prop} :
    Triple (fun s : Site σ κ => a.Of (s, p)) (Site.construct maker)
      (fun id s => (a.hold [id]).Of (s, p)) E :=
  fun _ hs => hs.construct maker

theorem create_custody (f : Factory σ κ) (properties : Fields) :
    Triple (fun s : Site σ κ => a.Of (s, p)) (create f properties)
      (fun i s => (a.hold [i.id]).Of (s, p)) fun why s => a.After why (s, p) := by
  apply Triple.bind (construct_custody f.tag)
  intro id
  have initialized := f.connector.call_custody (p := p) (a := a.hold [id]) id
    (x := .init properties) (by simp)
  apply Triple.bind (Q := fun _ s => (a.hold [id]).Of (s, p))
  · exact initialized.attempt (fun _ _ hs => hs) fun why _ cut hs => (hs.after why).lose cut
  · intro result
    cases result with
    | ok done =>
      apply Triple.bind (f.connector.probe_custody id Capability.all .empty)
      exact fun capabilities _ hs => hs
    | error e =>
      -- The failed instance is disposed of, whether the connector likes it or not.
      apply Triple.bind (Q := fun _ s => a.Of (s, p))
      · have disposes := f.connector.dispose_custody (p := p) (a := a) id
        exact disposes.attempt (fun _ _ hs => hs) fun why _ _ hs => hs.after why
      · intro disposed
        cases disposed with
        | ok done => exact Triple.fail fun _ hs => hs
        | error e =>
          exact Triple.bind (Site.note_custody _) fun _ => Triple.fail fun _ hs => hs

end Instance

namespace Pool

theorem splitStale_append (now minIdle minAge : Nat) (es : List (IdleInstance σ κ)) :
    (splitStale now minIdle minAge es).1 ++ (splitStale now minIdle minAge es).2 = es := by
  induction es with
  | nil => rfl
  | cons e rest ih =>
    rw [splitStale]
    split
    · exact congrArg (e :: ·) ih
    · rfl

/-- The numbers of an instance that may be there. -/
def idOf (taken : Option (Instance σ κ)) : List Nat := taken.toList.map (·.id)

theorem ids_dropLast_append (es : List (IdleInstance σ κ)) :
    ids es = ids es.dropLast ++ idOf (es.getLast?.map IdleInstance.member) := by
  rcases List.eq_nil_or_concat es with rfl | ⟨front, last, rfl⟩
  · rfl
  · simp [ids, idOf]

theorem note_custody (n : ConnectorKey → Note) {E : Stop → At σ κ → Prop} :
    Triple (fun s : At σ κ => a.Of s) (note n) (fun _ s => a.Of s) E :=
  Triple.get_bind fun _ hs => (Triple.onFirst fun _ => Site.note_custody _).pre fun _ ht => ht ▸ hs

theorem discard_custody (i : Instance σ κ) :
    Triple (fun s : At σ κ => (a.hold [i.id]).Of s) (discard i) (fun _ s => a.Of s)
      fun why s => why.abrupt = true ∧ a.After why s := by
  have disposed := Triple.onFirst fun q => i.connector.dispose_custody (a := a) (p := q) i.id
  apply Triple.bind (Q := fun _ s => a.Of s)
  · exact disposed.attempt (fun _ _ hs => hs) fun why _ cut hs => ⟨cut, hs.after why⟩
  · intro result
    cases result with
    | ok done => exact Triple.pure fun _ hs => hs
    | error e => exact note_custody _

/-- Of instances that are to be disposed of one after the other, those that are left when a call is
cut short are lost. -/
theorem forEach_custody {f : IdleInstance σ κ → Action (At σ κ) Unit}
    (each : ∀ (a : Account) e, Triple (fun s : At σ κ => (a.hold [e.member.id]).Of s) (f e)
      (fun _ s => a.Of s) fun why s => why.abrupt = true ∧ a.After why s)
    (es : List (IdleInstance σ κ)) :
    Triple (fun s : At σ κ => (a.hold (ids es)).Of s) (Action.forEach es f) (fun _ s => a.Of s)
      fun why s => why.abrupt = true ∧ a.After why s := by
  induction es with
  | nil => exact Triple.pure fun _ hs => hs
  | cons e rest ih =>
    apply Triple.bind (Q := fun _ s => (a.hold (ids rest)).Of s)
    · exact (each (a.hold (ids rest)) e).postStop fun why s hs => ⟨hs.1, hs.2.lose hs.1⟩
    · exact fun _ => ih

theorem evict_custody (e : IdleInstance σ κ) :
    Triple (fun s : At σ κ => (a.hold [e.member.id]).Of s)
      (do note .evicting; discard e.member) (fun _ s => a.Of s)
      fun why s => why.abrupt = true ∧ a.After why s :=
  Triple.bind (note_custody _) fun _ => discard_custody e.member

/-- Idle instances that are taken out are held. -/
theorem Account.Of.takeOut {s : At σ κ} (h : a.Of s) (kept : List (IdleInstance σ κ))
    (out : List Nat) (room : Nat)
    (same : ∀ id, (ids s.2.idle).count id = (ids kept).count id + out.count id)
    (fewer : kept.length ≤ s.2.idle.length) (hr : kept.length ≤ room) :
    ({ a with room := room }.hold out).Of (s.1, { s.2 with idle := kept }) := by
  refine { h with
    room := hr
    limit := Nat.le_trans fewer h.limit
    known := fun {id} hid => ?_
    balance := fun id => ?_ }
  · have before : 0 < (ids s.2.idle).count id := by
      rw [same id]
      exact Nat.add_pos_left (List.count_pos_iff.mpr hid) _
    exact h.known (List.count_pos_iff.mp before)
  · have balance := h.balance id
    rw [same id] at balance
    simp only [Account.hold, List.count_append] at balance ⊢
    omega

theorem popIdle_custody :
    Triple (fun s : At σ κ => a.Of s) popIdle (fun taken s => (a.narrow.hold (idOf taken)).Of s)
      fun why s => a.After why s := by
  apply Triple.get_bind
  intro s hs
  obtain ⟨site, p⟩ := s
  dsimp only
  have whole := splitStale_append site.clock p.settings.minIdle.toNat
    p.settings.minEvictableIdle.toNat p.idle
  generalize splitStale site.clock p.settings.minIdle.toNat p.settings.minEvictableIdle.toNat
    p.idle = split at whole ⊢
  obtain ⟨stale, kept⟩ := split
  replace whole : stale ++ kept = p.idle := whole
  have room : (stale ++ kept).length ≤ a.room := whole ▸ hs.room
  rw [List.length_append] at room
  have out : ((a.narrow.hold (idOf (kept.getLast?.map IdleInstance.member))).hold (ids stale)).Of
      (site, { p with idle := kept.dropLast }) := by
    rw [Account.hold_hold]
    refine hs.takeOut kept.dropLast _ (a.room - 1) (fun id => ?_) ?_ ?_
    · rw [← whole, ids_append, ids_dropLast_append kept]
      simp only [List.count_append]
      omega
    · rw [← whole, List.length_append, List.length_dropLast]
      omega
    · rw [List.length_dropLast]
      omega
  apply Triple.bind (Q := fun _ s => ((a.narrow.hold _).hold (ids stale)).Of s)
  · exact Triple.modify fun s hs => by rw [hs]; exact out
  · intro _
    apply Triple.bind ((forEach_custody (fun a e => evict_custody e) stale).postStop
      fun why s hs => (hs.2.lose hs.1).narrow)
    exact fun _ => Triple.pure fun _ hs => hs

theorem createPooled_custody :
    Triple (fun s : At σ κ => a.Of s) createPooled (fun i s => (a.hold [i.id]).Of s)
      fun why s => a.After why s := by
  apply Triple.bind (note_custody .creatingPooled)
  intro _
  apply Triple.get_bind
  intro s hs
  obtain ⟨site, p⟩ := s
  have created := Triple.onFirst fun q =>
    Instance.create_custody (a := a) (p := q) p.factory p.properties
  exact created.pre fun _ ht => ht ▸ hs

theorem checkAlive_custody (i : Instance σ κ) :
    Triple (fun s : At σ κ => (a.hold [i.id]).Of s) (Action.attempt (Action.onFirst i.checkAlive))
      (fun _ s => (a.hold [i.id]).Of s) fun why s => a.After why s := by
  have asked := Triple.onFirst fun q =>
    i.connector.call_custody (a := a.hold [i.id]) (p := q) i.id (x := .checkAlive) (by simp)
  exact asked.attempt (fun _ _ hs => hs) fun why _ cut hs => (hs.after why).lose cut

/-- Whichever idle instances are dead, what is handed out leaves a place less for idle ones: an
instance is only made when there are none. -/
theorem takeLive_custody {tries : Nat} (enough : a.room ≤ tries) :
    Triple (fun s : At σ κ => a.Of s) (takeLive tries) (fun i s => (a.narrow.hold [i.id]).Of s)
      fun why s => a.After why s := by
  induction tries generalizing a with
  | zero =>
    have same : a.narrow = a := by
      rw [Account.narrow, Nat.sub_eq_zero_of_le (Nat.le_succ_of_le enough),
        ← Nat.le_zero.mp enough]
    rw [same]
    exact createPooled_custody
  | succ tries ih =>
    apply Triple.bind popIdle_custody
    intro taken
    cases taken with
    | none => exact (createPooled_custody (a := a.narrow)).postStop fun _ _ hs => hs.narrow
    | some i =>
      apply Triple.bind ((checkAlive_custody i).postStop fun _ _ hs => hs.narrow)
      intro answer
      cases answer with
      | ok done => exact Triple.pure fun _ hs => hs
      | error e =>
        apply Triple.bind (note_custody _)
        intro _
        apply Triple.bind ((discard_custody i).postStop fun _ _ hs => hs.2.narrow)
        intro _
        apply (ih (Nat.sub_le_of_le_add enough)).weaken (fun _ hs => hs) _ fun _ _ hs => hs.narrow
        exact fun j s hs => Account.Of.narrow (a := a.narrow.hold [j.id]) hs

/-- The permit that is taken comes back where no instance is handed out. -/
theorem enter_custody {take : Semaphore → Semaphore} (free : 0 < a.permits) :
    Triple (fun s : At σ κ => a.Of s ∧ s.2.gate.Yields take) (enter take)
      (fun i s => (a.lend i.id).Of s) fun why s => a.After why s := by
  apply Triple.bind (Q := fun _ s => ({ a with permits := a.permits - 1 }).Of s)
  · rintro ⟨site, p⟩ ⟨hs, yields⟩
    have permits : p.gate.unclaimed = a.permits := hs.permits
    have taken : (take p.gate).unclaimed + 1 = p.gate.unclaimed := yields
    have left : (take p.gate).unclaimed = a.permits - 1 := by omega
    exact { hs with permits := left }
  intro _
  apply Triple.get_bind
  intro s hs
  obtain ⟨site, p⟩ := s
  have tries : p.idle.length ≤ p.idle.length := Nat.le_refl _
  apply Triple.onStop
  refine (takeLive_custody (a := { a with permits := a.permits - 1, room := p.idle.length })
    tries).weaken (fun s hs' => hs' ▸ { hs with room := Nat.le_refl _ }) ?_ ?_
  · intro i s hi
    exact Account.Of.widen (a := a.lend i.id) hi (Nat.sub_le_sub_right hs.room 1)
  · intro why s hstop
    refine hstop.map fun lost h => ?_
    refine { h with permits := ?_, room := Nat.le_trans h.room hs.room }
    have back : s.2.gate.release.unclaimed = a.permits - 1 + 1 :=
      (Semaphore.unclaimed_release _).trans (congrArg (· + 1) h.permits)
    exact back.trans (Nat.sub_add_cancel free)

/-- An instance handed out comes with a permit, of which there was one. -/
theorem enter_lends {take : Semaphore → Semaphore} :
    Triple (fun s : At σ κ => a.Of s ∧ s.2.gate.Yields take) (enter take)
      (fun i s => 0 < a.permits ∧ (a.lend i.id).Of s) fun why s => a.After why s := by
  rintro s ⟨hs, yields⟩
  have permits : s.2.gate.unclaimed = a.permits := hs.permits
  have free : 0 < a.permits := permits ▸ yields ▸ Nat.succ_pos _
  exact ((enter_custody free).post fun _ _ hi => ⟨free, hi⟩) s ⟨hs, yields⟩

theorem giveUp_custody {Q : Instance σ κ → At σ κ → Prop} :
    Triple (fun s : At σ κ => a.Of s) giveUp Q fun why s => a.After why s := by
  apply Triple.get_bind
  intro s hs
  obtain ⟨site, p⟩ := s
  apply Triple.bind (Q := fun _ s => a.Of s)
  · exact (Triple.onFirst fun _ => Site.note_custody _).pre fun _ ht => ht ▸ hs
  · exact fun _ => Triple.fail fun _ hs => hs

theorem wait_custody (ms : Nat) {E : Stop → At σ κ → Prop} :
    Triple (fun s : At σ κ => a.Of s) (Action.onFirst (Site.wait ms)) (fun _ s => a.Of s) E :=
  fun s hs => hs.onSite (s.1.clock + ms) s.1.resource

theorem borrow_custody :
    Triple (fun s : At σ κ => a.Of s) borrow (fun i s => 0 < a.permits ∧ (a.lend i.id).Of s)
      fun why s => a.After why s := by
  apply Triple.get_bind
  intro s hs
  obtain ⟨site, p⟩ := s
  dsimp only
  split
  · exact Triple.fail fun _ ht => ht ▸ hs
  split
  · next free => exact enter_lends.pre fun _ ht => ht ▸ ⟨hs, Semaphore.take_yields free⟩
  · apply Triple.bind ((wait_custody _).pre fun _ ht => ht ▸ hs)
    exact fun _ => giveUp_custody

/-- What an attempt at an instance comes to. -/
def Account.Met (a : Account) (progress : Progress σ κ) (s : At σ κ) : Prop :=
  match progress with
  | .ended (.ok i) => 0 < a.permits ∧ (a.lend i.id).Of s
  | _ => a.Of s

theorem ended_custody {P : At σ κ → Prop} {x : Action (At σ κ) (Instance σ κ)}
    (hx : Triple P x (fun i s => 0 < a.permits ∧ (a.lend i.id).Of s) fun why s => a.After why s) :
    Triple P (ended x) (fun progress s => a.Met progress s) fun why s => a.After why s := by
  apply Triple.bind (Q := fun result s => a.Met (.ended result) s)
  · exact hx.attempt (fun _ _ hs => hs) fun _ _ _ hs => hs
  · exact fun _ => Triple.pure fun _ hs => hs

/-- Whoever comes or goes in the queue, the permits that nobody has taken are as many. -/
theorem Account.Of.regate {s : At σ κ} (h : a.Of s) {f : Semaphore → Semaphore}
    (same : (f s.2.gate).unclaimed = s.2.gate.unclaimed) : a.Of (s.1, s.2.regate f) :=
  { h with permits := same.trans h.permits }

theorem begin_custody :
    Triple (fun s : At σ κ => a.Of s) begin (fun progress s => a.Met progress s)
      fun why s => a.After why s := by
  apply Triple.get_bind
  intro s hs
  obtain ⟨site, p⟩ := s
  dsimp only
  split
  · exact Triple.pure fun _ ht => ht ▸ hs
  split
  · next free =>
    exact (ended_custody enter_lends).pre fun _ ht => ht ▸ ⟨hs, Semaphore.take_yields free⟩
  · apply Triple.bind (Q := fun _ s => a.Of s)
    · exact Triple.modify fun t ht => ht ▸ hs.regate rfl
    · exact fun _ => Triple.pure fun _ ht => ht

theorem resume_custody (w : Waiter) :
    Triple (fun s : At σ κ => a.Of s) (resume (.waiting w)) (fun progress s => a.Met progress s)
      fun why s => a.After why s := by
  apply Triple.get_bind
  intro s hs
  obtain ⟨site, p⟩ := s
  dsimp only
  split
  · next handed =>
    exact (ended_custody enter_lends).pre fun _ ht => ht ▸ ⟨hs, Semaphore.claim_yields handed⟩
  · exact Triple.pure fun _ ht => ht ▸ hs

theorem expire_custody (time : Nat) (w : Waiter) :
    Triple (fun s : At σ κ => a.Of s) (expire time (.waiting w))
      (fun progress s => a.Met progress s) fun why s => a.After why s := by
  apply Triple.get_bind
  intro s hs
  dsimp only
  split
  · apply ended_custody
    apply Triple.bind (Q := fun _ s => a.Of s)
    · exact Triple.modify fun t ht => ht ▸ hs.regate rfl
    · exact fun _ => giveUp_custody
  · exact Triple.pure fun _ ht => ht ▸ hs

/-- A returned instance is idle or disposed of, even where its disposal fails. -/
theorem giveBack_custody (i : Instance σ κ) (fits : a.settings.maxIdle.toNat ≤ a.limit)
    (known : a.known i.id) :
    Triple (fun s : At σ κ => (a.hold [i.id]).Of s) (giveBack i) (fun _ s => a.restore.Of s)
      fun _ s => a.restore.Of s := by
  apply Triple.get_bind
  intro s hs
  obtain ⟨site, p⟩ := s
  have room : p.idle.length ≤ a.room := hs.room
  have permits : p.gate.release.unclaimed = a.permits + 1 :=
    (Semaphore.unclaimed_release _).trans (congrArg (· + 1) hs.permits)
  dsimp only
  split
  · apply Triple.bind (Q := fun _ s => (a.restore.hold [i.id]).Of s)
    · refine Triple.modify fun s ht => ?_
      rw [ht]
      exact { hs with permits := permits, room := Nat.le_succ_of_le room }
    · exact fun _ => Triple.onFirst fun q => i.connector.dispose_custody i.id
  · next kept =>
    refine Triple.modify fun s ht => ?_
    rw [ht]
    rw [not_or, Nat.not_le, hs.settings] at kept
    refine { hs with
      permits := permits
      room := ?_
      limit := ?_
      known := fun {id} hid => ?_
      balance := fun id => ?_ }
    · rw [List.length_append]
      exact Nat.succ_le_succ room
    · rw [List.length_append]
      exact Nat.le_trans kept.2 fits
    · rw [ids_append] at hid
      rcases List.mem_append.mp hid with hid | hid
      · exact hs.known hid
      · exact List.mem_singleton.mp hid ▸ known
    · have balance := hs.balance id
      simp only [Account.hold, Account.restore, ids, List.map_append, List.map_cons, List.map_nil,
        List.count_append] at balance ⊢
      omega

theorem close_custody :
    Triple (fun s : At σ κ => a.Of s) close (fun _ s => a.Of s) fun why s => a.After why s := by
  apply Triple.bind (Q := fun _ s => a.Of s)
  · exact Triple.modify fun _ hs => { hs with }
  intro _
  apply Triple.get_bind
  intro s hs
  obtain ⟨site, p⟩ := s
  have out : (a.hold (ids p.idle)).Of (site, { p with idle := [] }) :=
    hs.takeOut [] (ids p.idle) a.room (fun id => (Nat.zero_add _).symm) (Nat.zero_le _)
      (Nat.zero_le _)
  apply Triple.bind (Q := fun _ s => (a.hold (ids p.idle)).Of s)
  · exact Triple.modify fun s ht => by rw [ht]; exact out
  · exact fun _ => (forEach_custody (fun a e => discard_custody e.member) p.idle).postStop
      fun _ _ hs => hs.2

end Pool

end ConnectorHub
