import ConnectorHub.Pool.Waiting
import ConnectorHub.Proofs.Likeness.Instance

namespace ConnectorHub

open ConnectorHub.Action

variable {σ κ α : Type} {before : List (Entry κ)}

namespace Connector

variable {c d : Connector σ κ} (h : c.Alike d)
include h

theorem Alike.upkeep {x : Call} (id : Nat) (hx : x.isUpkeep = true) (served : x ≠ .dispose) :
    Agree (Site.Like Entry.Upkeep before) (SameEnd Eq) (c.call id x) (d.call id x) := by
  refine Agree.bindEq (Site.agree_write (by exact hx) _) fun _ => ?_
  rw [h.perform id served]
  exact Site.agree_onResource_self _

theorem Alike.disposal {kind : Entry κ → Prop} {id : Nat} (hk : kind (.called id .dispose)) :
    Agree (Site.Like kind before) SameCut (c.call id .dispose) (d.call id .dispose) :=
  Agree.bind (Site.agree_write hk _) (fun _ _ _ => Site.agree_onResource (h.dispose id)) .cut

theorem Alike.probe (id : Nat) (capabilities : List Capability) (found : CapabilitySet) :
    Agree (Site.Like Entry.Upkeep before) (SameEnd Eq) (c.probe id capabilities found)
      (d.probe id capabilities found) := by
  induction capabilities generalizing found with
  | nil => exact Agree.pure rfl
  | cons capability rest ih =>
    have asks : c.asks id capability = d.asks id capability := by
      rw [Connector.asks, Connector.asks, h.provides]
    unfold Connector.probe
    rw [asks]
    exact Agree.bindEq (Site.agree_onResource_self _) fun has => ih _

end Connector

namespace Instance

theorem agree_construct (maker maker' : Nat) :
    Agree (Site.Like (σ := σ) (κ := κ) Entry.Upkeep before) (SameEnd Eq) (Site.construct maker)
      (Site.construct maker') := by
  intro s t hst
  have grown := hst.write (e := .built s.built maker) (by exact trivial)
  exact ⟨.ok hst.built, { grown with built := congrArg (· + 1) hst.built }⟩

theorem agree_renew {i j : Instance σ κ} (id : i.id = j.id)
    (capabilities : i.capabilities = j.capabilities) (connector : i.connector.Alike j.connector) :
    Agree (Site.Like Entry.Upkeep before) (SameEnd Alike) i.renew j.renew := by
  intro s t hst
  refine ⟨.ok ⟨id, capabilities, ?_, connector⟩, hst⟩
  dsimp only
  rw [connector.rule, id, hst.resource]

theorem agree_create {f g : Factory σ κ} (h : f.connector.Alike g.connector) (properties : Fields) :
    Agree (Site.Like Entry.Upkeep before) (SameEnd Alike) (create f properties)
      (create g properties) := by
  refine Agree.bind (agree_construct f.tag g.tag) ?_ .error
  intro id other same
  subst same
  refine Agree.bind (h.upkeep id (x := .init properties) rfl (by simp)).attemptEq ?_ .error
  intro result other same
  subst same
  cases result with
  | ok done =>
    refine Agree.bind (h.probe id Capability.all .empty) ?_ .error
    intro capabilities other same
    subst same
    exact agree_renew rfl rfl h
  | error e =>
    refine Agree.bind (h.disposal (by exact rfl)).attempt ?_ .error
    -- One disposal may fail and the other not; the failure that counts is the first one.
    rintro (_ | _) (_ | _) -
    · exact Agree.left (fun s t hst => ⟨rfl, hst.write trivial⟩)
        (Agree.right (fun s t hst => ⟨rfl, hst.rewrite _⟩) (Agree.fail e))
    · exact Agree.left (fun s t hst => ⟨rfl, hst.write trivial⟩) (Agree.fail e)
    · exact Agree.right (fun s t hst => ⟨rfl, hst.rewrite _⟩) (Agree.fail e)
    · exact Agree.fail e

end Instance

structure IdleInstance.Alike (e e' : IdleInstance σ κ) : Prop where
  member : e.member.Alike e'.member
  returnedAt : e.returnedAt = e'.returnedAt

structure Pool.Alike (p q : Pool σ κ) : Prop where
  connector : p.factory.connector.Alike q.factory.connector
  properties : p.properties = q.properties
  settings : p.settings = q.settings
  gate : p.gate = q.gate
  idle : List.Forall₂ IdleInstance.Alike p.idle q.idle
  closed : p.closed = q.closed

namespace Pool

theorem Alike.refl (p : Pool σ κ) : p.Alike p where
  connector := .refl _
  properties := rfl
  settings := rfl
  gate := rfl
  idle := List.forall₂_same.mpr fun e _ => ⟨.refl e.member, rfl⟩
  closed := rfl

/-- Pools that are alike at like sites. -/
abbrev At.LikeIn (kind : Entry κ → Prop) (before : List (Entry κ)) : At σ κ → At σ κ → Prop :=
  Both (Site.Like kind before) Alike

abbrev At.Like (before : List (Entry κ)) : At σ κ → At σ κ → Prop :=
  At.LikeIn Entry.Upkeep before

theorem agree_note (n n' : ConnectorKey → Note) :
    Agree (At.Like (σ := σ) before) (SameEnd Eq) (note n) (note n') :=
  Agree.bind Agree.get (fun _ _ _ => (Site.agree_write (by exact trivial) _).onFirst) .error

theorem agree_update {kind : Entry κ → Prop} {f g : Pool σ κ → Pool σ κ}
    (h : ∀ p q, p.Alike q → (f p).Alike (g q)) :
    Agree (At.LikeIn kind before) (SameEnd Eq) (update f) (update g) :=
  Agree.modify fun s t hst => ⟨hst.1, h s.2 t.2 hst.2⟩

theorem agree_noteLeft (n : ConnectorKey → Note) {s t : At σ κ} (h : At.Like before s t) :
    (note n s).1 = .ok () ∧ At.Like before (note n s).2 t :=
  ⟨rfl, h.1.write trivial, h.2⟩

theorem agree_noteRight (n : ConnectorKey → Note) {s t : At σ κ} (h : At.Like before s t) :
    (note n t).1 = .ok () ∧ At.Like before s (note n t).2 :=
  ⟨rfl, h.1.rewrite _, h.2⟩

theorem agree_discard {i j : Instance σ κ} (h : i.Alike j) :
    Agree (At.Like before) (SameEnd Eq) (discard i) (discard j) := by
  have disposal : Agree (At.Like before) SameCut (Action.onFirst i.dispose)
      (Action.onFirst j.dispose) := by
    unfold Instance.dispose Instance.call
    rw [h.id]
    exact (h.connector.disposal (by exact rfl)).onFirst
  refine Agree.bind disposal.attempt ?_ .error
  rintro (e | ⟨⟩) (e' | ⟨⟩) -
  · exact agree_note _ _
  · exact fun s t hst => ⟨.ok rfl, (agree_noteLeft _ hst).2⟩
  · exact fun s t hst => ⟨.ok rfl, (agree_noteRight _ hst).2⟩
  · exact Agree.pure rfl

theorem splitStale_alike (now minIdle minAge : Nat) {es es' : List (IdleInstance σ κ)}
    (h : List.Forall₂ IdleInstance.Alike es es') :
    List.Forall₂ IdleInstance.Alike (splitStale now minIdle minAge es).1
        (splitStale now minIdle minAge es').1 ∧
      List.Forall₂ IdleInstance.Alike (splitStale now minIdle minAge es).2
        (splitStale now minIdle minAge es').2 := by
  induction h with
  | nil => exact ⟨.nil, .nil⟩
  | @cons e e' rest rest' head tail ih =>
    rw [splitStale, splitStale, tail.length_eq, head.returnedAt]
    split
    · exact ⟨.cons head ih.1, ih.2⟩
    · exact ⟨.nil, .cons head tail⟩

theorem alike_getLast? {es es' : List (IdleInstance σ κ)}
    (h : List.Forall₂ IdleInstance.Alike es es') :
    Option.Rel Instance.Alike (es.getLast?.map IdleInstance.member)
      (es'.getLast?.map IdleInstance.member) := by
  induction h with
  | nil => exact .none
  | cons head tail ih =>
    cases tail with
    | nil => exact .some head.member
    | cons next rest => exact ih

theorem alike_dropLast {es es' : List (IdleInstance σ κ)}
    (h : List.Forall₂ IdleInstance.Alike es es') :
    List.Forall₂ IdleInstance.Alike es.dropLast es'.dropLast := by
  induction h with
  | nil => exact .nil
  | cons head tail ih =>
    cases tail with
    | nil => exact .nil
    | cons next rest => exact .cons head ih

theorem agree_popIdle :
    Agree (At.Like (σ := σ) (κ := κ) before) (SameEnd (Option.Rel Instance.Alike)) popIdle popIdle := by
  refine Agree.bind Agree.get ?_ .error
  intro s t hst
  obtain ⟨site, p⟩ := s
  obtain ⟨site', q⟩ := t
  obtain ⟨hsite, hpool⟩ := hst
  have clock : site.clock = site'.clock := hsite.clock
  have settings : p.settings = q.settings := hpool.settings
  dsimp only
  rw [clock, settings]
  have split := splitStale_alike site'.clock q.settings.minIdle.toNat
    q.settings.minEvictableIdle.toNat hpool.idle
  generalize splitStale site'.clock q.settings.minIdle.toNat q.settings.minEvictableIdle.toNat
    p.idle = split₁ at split ⊢
  generalize splitStale site'.clock q.settings.minIdle.toNat q.settings.minEvictableIdle.toNat
    q.idle = split₂ at split ⊢
  obtain ⟨stale, kept⟩ := split₁
  obtain ⟨stale', kept'⟩ := split₂
  refine Agree.bind (agree_update fun p q hpq => { hpq with idle := alike_dropLast split.2 }) ?_
    .error
  intro _ _ _
  refine Agree.bind (Agree.forEach split.1 fun e e' he => ?_) ?_ .error
  · exact Agree.bindEq (agree_note _ _) fun _ => agree_discard he.member
  · exact fun _ _ _ => Agree.pure (alike_getLast? split.2)

theorem agree_createPooled :
    Agree (At.Like (σ := σ) (κ := κ) before) (SameEnd Instance.Alike) createPooled createPooled := by
  refine Agree.bind (agree_note _ _) (fun _ _ _ => Agree.bind Agree.get ?_ .error) .error
  intro s t hst
  obtain ⟨site, p⟩ := s
  obtain ⟨site', q⟩ := t
  obtain ⟨hsite, hpool⟩ := hst
  dsimp only
  rw [hpool.properties]
  exact (Instance.agree_create hpool.connector q.properties).onFirst

theorem agree_takeLive (tries : Nat) :
    Agree (At.Like (σ := σ) (κ := κ) before) (SameEnd Instance.Alike) (takeLive tries)
      (takeLive tries) := by
  induction tries with
  | zero => exact agree_createPooled
  | succ tries ih =>
    refine Agree.bind agree_popIdle ?_ .error
    intro taken taken' htaken
    cases htaken with
    | none => exact agree_createPooled
    | @some i j h =>
      have asked : Agree (At.Like before) (SameEnd Eq) (Action.onFirst i.checkAlive)
          (Action.onFirst j.checkAlive) := by
        unfold Instance.checkAlive Instance.call
        rw [h.id]
        exact (h.connector.upkeep j.id (x := .checkAlive) rfl (by simp)).onFirst
      refine Agree.bind asked.attemptEq ?_ .error
      intro answer other same
      subst same
      cases answer with
      | ok done => exact Agree.pure h
      | error e =>
        exact Agree.bind (agree_note _ _) (fun _ _ _ => Agree.bind (agree_discard h)
          (fun _ _ _ => ih) .error) .error

theorem agree_regate {kind : Entry κ → Prop} (f : Semaphore → Semaphore) :
    Agree (At.LikeIn (σ := σ) kind before) (SameEnd Eq) (update (regate f)) (update (regate f)) :=
  agree_update fun _ _ hpq => { hpq with gate := congrArg f hpq.gate }

theorem agree_enter (take : Semaphore → Semaphore) :
    Agree (At.Like (σ := σ) (κ := κ) before) (SameEnd Instance.Alike) (enter take) (enter take) := by
  refine Agree.bind (agree_regate take) ?_ .error
  intro _ _ _
  refine Agree.bind Agree.get ?_ .error
  intro s t hst
  obtain ⟨site, p⟩ := s
  obtain ⟨site', q⟩ := t
  obtain ⟨hsite, hpool⟩ := hst
  dsimp only
  rw [hpool.idle.length_eq]
  exact (agree_takeLive _).onStop fun s t hst =>
    ⟨hst.1, { hst.2 with gate := congrArg Semaphore.release hst.2.gate }⟩

theorem agree_giveUp :
    Agree (At.Like (σ := σ) (κ := κ) before) (SameEnd Instance.Alike) giveUp giveUp := by
  refine Agree.bind Agree.get ?_ .error
  intro s t hst
  obtain ⟨site, p⟩ := s
  obtain ⟨site', q⟩ := t
  obtain ⟨hsite, hpool⟩ := hst
  dsimp only
  rw [hpool.settings]
  exact Agree.bind (Site.agree_write (by exact trivial) _).onFirst
    (fun _ _ _ => Agree.fail _) .error

/-- What is lent is alike. -/
theorem agree_borrow :
    Agree (At.Like (σ := σ) (κ := κ) before) (SameEnd Instance.Alike) borrow borrow := by
  refine Agree.bind Agree.get ?_ .error
  intro s t hst
  obtain ⟨site, p⟩ := s
  obtain ⟨site', q⟩ := t
  obtain ⟨hsite, hpool⟩ := hst
  dsimp only
  rw [hpool.closed, hpool.gate, hpool.settings]
  split
  · exact Agree.fail _
  split
  · exact agree_enter .take
  · refine Agree.bind (Agree.onFirst (Agree.modify fun s t hst => ?_))
      (fun _ _ _ => agree_giveUp) .error
    exact { hst with clock := congrArg (· + _) hst.clock }

/-- A return fails on one side only where the disposal does. -/
theorem agree_giveBack {i j : Instance σ κ} (h : i.Alike j) :
    Agree (At.LikeIn (Entry.ClosingOf i.id) before) SameCut (giveBack i) (giveBack j) := by
  refine Agree.bind Agree.get ?_ .cut
  intro s t hst
  obtain ⟨site, p⟩ := s
  obtain ⟨site', q⟩ := t
  obtain ⟨hsite, hpool⟩ := hst
  dsimp only
  rw [hpool.closed, hpool.settings, hpool.idle.length_eq]
  split
  · refine Agree.bind (agree_regate .release) ?_ .cut
    intro _ _ _
    unfold Instance.dispose Instance.call
    rw [← h.id]
    exact (h.connector.disposal (by exact ⟨rfl, rfl⟩)).onFirst
  · have returned : IdleInstance.Alike ⟨i, site.clock⟩ ⟨j, site'.clock⟩ := ⟨h, hsite.clock⟩
    refine (agree_update fun p q hpq => ?_).weaken fun _ _ => SameEnd.sameCut
    exact { hpq with
      gate := congrArg Semaphore.release hpq.gate
      idle := List.rel_append hpq.idle (.cons returned .nil) }

end Pool

end ConnectorHub
