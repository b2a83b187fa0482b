import ConnectorHub.Hub.World
import ConnectorHub.Proofs.Pool.Custody

namespace ConnectorHub

open ConnectorHub.Action
open Pool (Account ids)

variable {σ κ α : Type}

/-- The pool that the context's instances come from. -/
def Context.pool? (c : Context σ κ) (w : World σ κ) : Option (Pool σ κ) :=
  c.pool.bind fun n => w.pools[n]?

def Context.idleIds (c : Context σ κ) (w : World σ κ) : List Nat :=
  ((c.pool? w).map fun p => ids p.idle).getD []

/-- For each instance that is held, a permit of its pool is taken. -/
def Context.Permits (c : Context σ κ) (w w' : World σ κ) (before after : List Nat) : Prop :=
  ∀ p p', c.pool? w = some p → c.pool? w' = some p' →
    p.permits + before.length = p'.permits + after.length

/-- From one world to the other the entries `es` were written, and no instance has come or gone
except as they tell. Outside the pool, `before` were held at first and `after` in the end. -/
structure Context.Transfer (c : Context σ κ) (w w' : World σ κ) (before after : List Nat)
    (es : List (Entry κ)) : Prop where
  written : w'.site.journal = w.site.journal ++ es
  constructed_once (id : Nat) : Entry.constructions id es ≤ 1
  balance (id : Nat) :
    (c.idleIds w).count id + before.count id + Entry.constructions id es =
      (c.idleIds w').count id + after.count id + Entry.disposals id es
  permits : c.Permits w w' before after

namespace Pool

/-- An account opened at this place. The `held` instances are outside the pool. -/
def account (p : Pool σ κ) (s : Site σ κ) (held : List Nat) : Account where
  settings := p.settings
  permits := p.permits
  room := p.idle.length
  limit := p.idle.length + p.settings.maxIdle.toNat
  first := s.built
  opened := s.journal.length
  known := fun id => id ∈ ids p.idle ∨ id ∈ held
  given := ids p.idle ++ held

theorem account_of (p : Pool σ κ) (s : Site σ κ) (held : List Nat) :
    ((p.account s held).hold held).Of (s, p) where
  settings := rfl
  permits := rfl
  room := Nat.le_refl _
  limit := Nat.le_add_right _ _
  first := Nat.le_refl _
  opened := Nat.le_refl _
  known := .inl
  numbered id := by
    rw [Site.since, show (p.account s held |>.hold held).opened = s.journal.length from rfl,
      List.drop_length]
    exact (if_neg fun hid => Nat.not_lt.mpr hid.1 hid.2).symm
  balance id := by
    rw [Site.since, show (p.account s held |>.hold held).opened = s.journal.length from rfl,
      List.drop_length]
    simp [Account.hold, account]

end Pool

namespace World

variable {n : Nat} {a : Account}

/-- The pool at a place is as `P` says. -/
def AtPool (n : Nat) (P : Pool.At σ κ → Prop) (w : World σ κ) : Prop :=
  ∃ p, w.pools[n]? = some p ∧ P (w.site, p)

theorem onPool_triple {P : Pool.At σ κ → Prop} {x : Action (Pool.At σ κ) α}
    {Q : α → Pool.At σ κ → Prop} {E : Stop → Pool.At σ κ → Prop} (h : Triple P x Q E) :
    Triple (AtPool n P) (onPool n x) (fun v => AtPool n (Q v)) fun why => AtPool n (E why) := by
  intro w hw
  obtain ⟨p, hp, hs⟩ := hw
  have ended := h (w.site, p) hs
  have hn := (List.getElem?_eq_some_iff.mp hp).1
  unfold onPool
  rw [hp]
  dsimp only
  cases run : x (w.site, p) with
  | mk result t =>
    rw [run] at ended
    have put : (w.pools.set n t.2)[n]? = some t.2 := List.getElem?_set_self hn
    cases result with
    | ok v => exact ⟨t.2, put, ended⟩
    | error why => exact ⟨t.2, put, ended⟩

theorem onSite_triple (p : Pool σ κ) {P : Pool.At σ κ → Prop} {x : Action (Site σ κ) α}
    {Q : α → Pool.At σ κ → Prop} {E : Stop → Pool.At σ κ → Prop}
    (h : Triple (fun s => P (s, p)) x (fun v s => Q v (s, p)) fun why s => E why (s, p)) :
    Triple (fun w : World σ κ => P (w.site, p)) (onSite x) (fun v w => Q v (w.site, p))
      fun why w => E why (w.site, p) :=
  Triple.zoom fun _ hw => h.pre fun _ hs => hs ▸ hw

theorem note_triple (m : Note) {E : Stop → World σ κ → Prop} :
    Triple (AtPool (κ := κ) n a.Of) (note m) (fun _ => AtPool n a.Of) E :=
  fun _ ⟨p, hp, hs⟩ => ⟨p, hp, hs.write (Entry.quiet_noted m)⟩

end World

namespace Lease

open World

variable {n : Nat} {a : Account} {c : Context σ κ}

theorem acquire_pool (c : Context σ κ) :
    Triple (fun _ => True) (acquire c) (fun l _ => l.pool = c.pool) fun _ _ => True := by
  unfold acquire
  cases c.pool with
  | none => exact (Triple.unasked _).bind fun _ => (Triple.unasked _).bind fun _ =>
      Triple.pure fun _ _ => rfl
  | some n => exact (Triple.unasked _).bind fun _ => (Triple.unasked _).bind fun _ =>
      (Triple.unasked _).bind fun _ => Triple.pure fun _ _ => rfl

theorem acquire_pooled (hc : c.pool = some n) :
    Triple (AtPool n a.Of) (acquire c)
      (fun l => AtPool n fun s => 0 < a.permits ∧ (a.lend l.member.id).Of s)
      fun why => AtPool n (a.After why) := by
  unfold acquire
  rw [hc]
  refine Triple.bind (onPool_triple Pool.borrow_custody) fun i => ?_
  apply Triple.bind (Q := fun _ => AtPool n fun s => 0 < a.permits ∧ (a.lend i.id).Of s)
  · intro w hw
    obtain ⟨p, hp, free, hs⟩ := hw
    exact ⟨p, hp, free, hs.write (Entry.quiet_noted _)⟩
  · exact fun _ _ hw => hw

theorem acquire_unpooled (hc : c.pool = none) (p : Pool σ κ) :
    Triple (fun w : World σ κ => a.Of (w.site, p)) (acquire c)
      (fun l w => (a.hold [l.member.id]).Of (w.site, p)) fun why w => a.After why (w.site, p) := by
  unfold acquire
  rw [hc]
  refine Triple.bind (onSite_triple p (Instance.create_custody c.factory _)) fun i => ?_
  refine Triple.bind (onSite_triple p (Site.note_custody _)) fun _ => ?_
  exact Triple.pure fun _ hw => hw

theorem release_pooled {l : Lease σ κ} (hl : l.pool = some n)
    (fits : a.settings.maxIdle.toNat ≤ a.limit) (known : a.known l.member.id) :
    Triple (AtPool n (a.hold [l.member.id]).Of) l.release (fun _ => AtPool n a.restore.Of)
      fun _ => AtPool n a.restore.Of := by
  unfold release
  rw [hl]
  apply Triple.bind (Q := fun _ => AtPool n a.restore.Of)
  · have back := onPool_triple (n := n) (Pool.giveBack_custody l.member fits known)
    exact back.attempt (fun _ _ hw => hw) fun _ _ _ hw => hw
  · intro result
    cases result with
    | ok done => exact note_triple _
    | error e => exact note_triple _

theorem release_unpooled {l : Lease σ κ} (hl : l.pool = none) (p : Pool σ κ) :
    Triple (fun w : World σ κ => (a.hold [l.member.id]).Of (w.site, p)) l.release
      (fun _ w => a.Of (w.site, p)) fun _ w => a.Of (w.site, p) := by
  unfold release
  rw [hl]
  apply Triple.bind (Q := fun _ w => a.Of (w.site, p))
  · have disposes := onSite_triple p (l.member.connector.dispose_custody (a := a) l.member.id)
    exact disposes.attempt (fun _ _ hw => hw) fun _ _ _ hw => hw
  · intro result
    cases result with
    | ok done => exact onSite_triple p (Site.note_custody _)
    | error e => exact onSite_triple p (Site.note_custody _)

end Lease

namespace Context

open World

variable {c : Context σ κ} {w w' : World σ κ} {es : List (Entry κ)} {p p' : Pool σ κ}
  {before after : List Nat}

theorem idleIds_of_pool? (hp : c.pool? w = some p) : c.idleIds w = ids p.idle := by
  rw [idleIds, hp]
  rfl

theorem idleIds_unpooled (hc : c.pool = none) (w : World σ κ) : c.idleIds w = [] := by
  rw [idleIds, pool?, hc]
  rfl

theorem pool?_pooled {n : Nat} (hc : c.pool = some n) (w : World σ κ) : c.pool? w = w.pools[n]? := by
  rw [pool?, hc]
  rfl

theorem Permits.of_pool? (hp : c.pool? w = some p) (hp' : c.pool? w' = some p')
    (h : p.permits + before.length = p'.permits + after.length) : c.Permits w w' before after := by
  intro q q' hq hq'
  obtain rfl : p = q := Option.some.inj (hp.symm.trans hq)
  obtain rfl : p' = q' := Option.some.inj (hp'.symm.trans hq')
  exact h

theorem permits_unpooled (hc : c.pool = none) : c.Permits w w' before after := by
  intro q q' hq
  rw [pool?, hc] at hq
  cases hq

theorem transfer_self (c : Context σ κ) (w : World σ κ) : c.Transfer w w [] [] [] where
  written := (List.append_nil _).symm
  constructed_once _ := Nat.zero_le 1
  balance _ := rfl
  permits _ _ hp hp' := by rw [Option.some.inj (hp.symm.trans hp')]

/-- An account opened in the first world that holds in the second one. -/
theorem Transfer.of_account {a : Account} (hi : c.idleIds w = ids p.idle)
    (hi' : c.idleIds w' = ids p'.idle) (opened : a.opened = w.site.journal.length)
    (given : a.given = ids p.idle ++ before) (lost : a.lost = []) (ha : a.Of (w'.site, p'))
    (written : w'.site.journal = w.site.journal ++ es) (permits : c.Permits w w' before a.held) :
    c.Transfer w w' before a.held es := by
  have since : w'.site.since a.opened = es := by
    rw [Site.since, opened, written, List.drop_left]
  refine { written := written, constructed_once := ?_, balance := ?_, permits := permits }
  · intro id
    have numbered := ha.numbered id
    rw [since] at numbered
    rw [numbered]
    split
    · exact Nat.le_refl 1
    · exact Nat.zero_le 1
  · intro id
    have balance := ha.balance id
    simp only [since, given, lost, List.count_append, List.count_nil, Nat.add_zero] at balance
    rw [hi, hi']
    omega

/-- A pool that is never asked: that of instances without one. -/
def noPool (c : Context σ κ) : Pool σ κ :=
  ⟨c.factory, c.configuration.properties, {}, ⟨0, [], []⟩, [], false⟩

theorem acquire_missing {n : Nat} (hc : c.pool = some n) (hp : w.pools[n]? = none) :
    Lease.acquire c w = (.error (.error Pool.closedError), w) := by
  have missing : onPool n Pool.borrow w = (.error (.error Pool.closedError), w) := by
    rw [onPool, hp]
  unfold Lease.acquire
  rw [hc]
  exact Action.bind_of_error missing

/-- A lease from a pool takes one permit of it. -/
theorem acquire_lent {n : Nat} (hc : c.pool = some n) {l : Lease σ κ}
    (run : Lease.acquire c w = (.ok l, w')) :
    ∃ p p', c.pool? w = some p ∧ c.pool? w' = some p' ∧ 0 < p.permits ∧
      ((p.account w.site []).lend l.member.id).Of (w'.site, p') := by
  cases hp : w.pools[n]? with
  | none =>
    have missing := acquire_missing hc hp
    rw [run] at missing
    cases missing
  | some p =>
    obtain ⟨p', hp', free, lent⟩ :=
      (Lease.acquire_pooled hc).ok ⟨p, hp, p.account_of w.site []⟩ run
    exact ⟨p, p', (pool?_pooled hc w).trans hp, (pool?_pooled hc w').trans hp', free, lent⟩

/-- The instance that is leased was idle before or has been constructed. -/
theorem acquire_transfer {l : Lease σ κ} (run : Lease.acquire c w = (.ok l, w'))
    (written : w'.site.journal = w.site.journal ++ es) :
    c.Transfer w w' [] [l.member.id] es := by
  cases hc : c.pool with
  | none =>
    have held := (Lease.acquire_unpooled hc c.noPool).ok (c.noPool.account_of w.site []) run
    exact Transfer.of_account (idleIds_unpooled hc w) (idleIds_unpooled hc w') rfl rfl rfl held
      written (permits_unpooled hc)
  | some n =>
    obtain ⟨p, p', hp, hp', free, lent⟩ := acquire_lent hc run
    refine Transfer.of_account (idleIds_of_pool? hp) (idleIds_of_pool? hp') rfl rfl rfl lent
      written (.of_pool? hp hp' ?_)
    have permits : p'.permits = p.permits - 1 := lent.permits
    show p.permits + 0 = p'.permits + 1
    omega

theorem acquire_there {l : Lease σ κ} (run : Lease.acquire c w = (.ok l, w'))
    (hc : c.pool.isSome = true) : (c.pool? w').isSome = true := by
  obtain ⟨n, hn⟩ := Option.isSome_iff_exists.mp hc
  obtain ⟨p, p', hp, hp', free, lent⟩ := acquire_lent hn run
  rw [hp']
  rfl

/-- Where no instance is leased every permit is there again, and unless the call was cut short so is
every instance, idle or disposed of. -/
theorem acquire_vain {why : Stop} (run : Lease.acquire c w = (.error why, w'))
    (written : w'.site.journal = w.site.journal ++ es) :
    c.Permits w w' [] [] ∧ (why.abrupt = false →
      c.Transfer w w' [] [] es ∧ ∀ id ∈ c.idleIds w', id ∈ c.idleIds w) := by
  cases hc : c.pool with
  | none =>
    have after := (Lease.acquire_unpooled hc c.noPool).error (c.noPool.account_of w.site []) run
    refine ⟨permits_unpooled hc, fun settled => ?_⟩
    refine ⟨Transfer.of_account (idleIds_unpooled hc w) (idleIds_unpooled hc w') rfl rfl rfl
      (after.settled settled) written (permits_unpooled hc), ?_⟩
    rw [idleIds_unpooled hc w']
    exact fun id hid => absurd hid List.not_mem_nil
  | some n =>
    cases hp : w.pools[n]? with
    | none =>
      have missing := acquire_missing hc hp
      rw [run] at missing
      cases missing
      obtain rfl : es = [] := List.self_eq_append_right.mp written
      exact ⟨(transfer_self c w).permits, fun _ => ⟨transfer_self c w, fun _ => id⟩⟩
    | some p =>
      obtain ⟨p', hp', after⟩ :=
        (Lease.acquire_pooled hc).error ⟨p, hp, p.account_of w.site []⟩ run
      have hq : c.pool? w = some p := (pool?_pooled hc w).trans hp
      have hq' : c.pool? w' = some p' := (pool?_pooled hc w').trans hp'
      obtain ⟨lost, -, books⟩ := after.exists_lost
      have permits : p'.permits = p.permits := books.permits
      have kept : c.Permits w w' [] [] := .of_pool? hq hq' (by rw [permits])
      refine ⟨kept, fun settled => ?_⟩
      refine ⟨Transfer.of_account (idleIds_of_pool? hq) (idleIds_of_pool? hq') rfl rfl rfl
        (after.settled settled) written kept, fun id hid => ?_⟩
      rw [idleIds_of_pool? hq'] at hid
      rw [idleIds_of_pool? hq]
      exact ((after.settled settled).known hid).resolve_right List.not_mem_nil

/-- A released instance is idle or has been disposed of. -/
theorem release_transfer {l : Lease σ κ} (hl : l.pool = c.pool)
    (there : c.pool.isSome = true → (c.pool? w).isSome = true) {result : Except Stop Unit}
    (run : l.release w = (result, w')) (written : w'.site.journal = w.site.journal ++ es) :
    c.Transfer w w' [l.member.id] [] es := by
  cases hc : c.pool with
  | none =>
    have released := Lease.release_unpooled (a := c.noPool.account w.site [l.member.id])
      (hl.trans hc) c.noPool w (c.noPool.account_of w.site [l.member.id])
    rw [run] at released
    have books : (c.noPool.account w.site [l.member.id]).Of (w'.site, c.noPool) := by
      cases result <;> exact released
    exact Transfer.of_account (idleIds_unpooled hc w) (idleIds_unpooled hc w') rfl rfl rfl books
      written (permits_unpooled hc)
  | some n =>
    obtain ⟨p, hq⟩ := Option.isSome_iff_exists.mp (there (by rw [hc]; rfl))
    have hp : w.pools[n]? = some p := (pool?_pooled hc w).symm.trans hq
    have released := Lease.release_pooled (a := p.account w.site [l.member.id]) (hl.trans hc)
      (Nat.le_add_left _ _) (.inr (List.mem_singleton_self _)) w ⟨p, hp, p.account_of w.site _⟩
    rw [run] at released
    have books : ∃ p', w'.pools[n]? = some p' ∧
        (p.account w.site [l.member.id]).restore.Of (w'.site, p') := by
      cases result <;> exact released
    obtain ⟨p', hp', books⟩ := books
    have hq' : c.pool? w' = some p' := (pool?_pooled hc w').trans hp'
    have permits : p'.permits = p.permits + 1 := books.permits
    exact Transfer.of_account (idleIds_of_pool? hq) (idleIds_of_pool? hq') rfl rfl rfl books written
      (.of_pool? hq hq' permits.symm)

end Context

end ConnectorHub
