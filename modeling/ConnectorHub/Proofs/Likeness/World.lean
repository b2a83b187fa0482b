import ConnectorHub.Hub.World
import ConnectorHub.Proofs.Likeness.Pool
import ConnectorHub.Proofs.Likeness.Work

namespace ConnectorHub

open ConnectorHub.Action

variable {σ κ ρ α β : Type}

structure World.Alike (w v : World σ κ) : Prop where
  site : w.site.Alike v.site
  pools : List.Forall₂ Pool.Alike w.pools v.pools

structure World.Like (kind : Entry κ → Prop) (before : List (Entry κ)) (w v : World σ κ) : Prop where
  site : w.site.Like kind before v.site
  pools : List.Forall₂ Pool.Alike w.pools v.pools

structure Context.Alike (c d : Context σ κ) : Prop where
  connector : c.factory.connector.Alike d.factory.connector
  configuration : c.configuration = d.configuration
  pool : c.pool = d.pool

structure Lease.Alike (l m : Lease σ κ) : Prop where
  member : l.member.Alike m.member
  pool : l.pool = m.pool

theorem Context.Alike.refl (c : Context σ κ) : c.Alike c := ⟨.refl _, rfl, rfl⟩

namespace World

variable {kind : Entry κ → Prop} {before : List (Entry κ)} {w v : World σ κ}
  {Q : Except Stop α → Except Stop β → Prop}

theorem Alike.refl (w : World σ κ) : w.Alike w :=
  ⟨⟨rfl, rfl, rfl⟩, List.forall₂_same.mpr fun p _ => .refl p⟩

theorem Alike.like (h : w.Alike v) (kind : Entry κ → Prop) : w.Like kind w.site.journal v :=
  ⟨h.site.like kind, h.pools⟩

theorem Like.alike (h : w.Like kind before v) : w.Alike v := ⟨h.site.toAlike, h.pools⟩

theorem agree_onSite {x : Action (Site σ κ) α} {y : Action (Site σ κ) β}
    (h : Agree (Site.Like kind before) Q x y) :
    Agree (Like kind before) Q (onSite x) (onSite y) :=
  fun w v hwv => ⟨(h w.site v.site hwv.site).1, (h w.site v.site hwv.site).2, hwv.pools⟩

theorem agree_onSiteWith {x y : Action (Site σ κ × ρ) α}
    (h : Agree (Site.LikeBeside kind before) (SameEnd Eq) x y) :
    Agree (Both (Like kind before) Eq) (SameEnd Eq) (onSiteWith x) (onSiteWith y) := by
  intro s t hst
  obtain ⟨ends, next, caller⟩ := h (s.1.site, s.2) (t.1.site, t.2) ⟨hst.1.site, hst.2⟩
  exact ⟨ends, ⟨next, hst.1.pools⟩, caller⟩

theorem agree_note {n : Note} (hk : kind (.noted n)) (n' : Note) :
    Agree (Like (σ := σ) kind before) (SameEnd Eq) (note n) (note n') :=
  agree_onSite (Site.agree_write hk _)

theorem alike_getElem? {ps qs : List (Pool σ κ)} (h : List.Forall₂ Pool.Alike ps qs) (n : Nat) :
    Option.Rel Pool.Alike ps[n]? qs[n]? := by
  induction h generalizing n with
  | nil => exact .none
  | cons head tail ih =>
    cases n with
    | zero => exact .some head
    | succ n => exact ih n

theorem alike_set {ps qs : List (Pool σ κ)} (h : List.Forall₂ Pool.Alike ps qs) (n : Nat)
    {p q : Pool σ κ} (hpq : p.Alike q) : List.Forall₂ Pool.Alike (ps.set n p) (qs.set n q) := by
  induction h generalizing n with
  | nil => exact .nil
  | cons head tail ih =>
    cases n with
    | zero => exact .cons hpq tail
    | succ n => exact .cons head (ih n)

theorem agree_onPool (n : Nat) {x : Action (Pool.At σ κ) α} {y : Action (Pool.At σ κ) β}
    (h : Agree (Pool.At.LikeIn kind before) Q x y)
    (none : Q (.error (.error Pool.closedError)) (.error (.error Pool.closedError))) :
    Agree (Like kind before) Q (onPool n x) (onPool n y) := by
  intro w v hwv
  have paired := alike_getElem? hwv.pools n
  unfold onPool
  generalize w.pools[n]? = pool at paired ⊢
  generalize v.pools[n]? = pool' at paired ⊢
  cases paired with
  | none => exact ⟨none, hwv⟩
  | @some p q hpq =>
    obtain ⟨ends, next, like⟩ := h (w.site, p) (v.site, q) ⟨hwv.site, hpq⟩
    exact ⟨ends, next, alike_set hwv.pools n like⟩

end World

open World

variable {before : List (Entry κ)}

theorem Context.Alike.acquire {c d : Context σ κ} (h : c.Alike d) :
    Agree (World.Like Entry.Upkeep before) (SameEnd Lease.Alike) (Lease.acquire c)
      (Lease.acquire d) := by
  unfold Lease.acquire
  rw [h.pool, h.configuration]
  cases d.pool with
  | none =>
    refine Agree.bind (agree_onSite (Instance.agree_create h.connector _)) ?_ .error
    intro i j hij
    exact Agree.bind (agree_note (by exact trivial) _) (fun _ _ _ => Agree.pure ⟨hij, rfl⟩) .error
  | some n =>
    refine Agree.bind (agree_onPool n Pool.agree_borrow (.error _)) ?_ .error
    intro i j hij
    refine Agree.bind (agree_note (by exact trivial) _) (fun _ _ _ => ?_) .error
    refine Agree.bind (agree_onSite ?_) (fun _ _ hij => Agree.pure ⟨hij, rfl⟩) .error
    exact Instance.agree_renew hij.id hij.capabilities hij.connector

/-- Whether the instance can be disposed of or not, its release ends well unless it is cut short. -/
theorem Lease.Alike.release {l m : Lease σ κ} (h : l.Alike m) :
    Agree (World.Like (Entry.ClosingOf l.member.id) before) (SameEnd Eq) l.release m.release := by
  unfold Lease.release
  rw [h.pool]
  cases m.pool with
  | none =>
    have disposal : Agree (World.Like (Entry.ClosingOf l.member.id) before) SameCut
        (onSite l.member.dispose) (onSite m.member.dispose) := by
      unfold Instance.dispose Instance.call
      rw [← h.member.id]
      exact agree_onSite (h.member.connector.disposal (by exact ⟨rfl, rfl⟩))
    refine Agree.bind disposal.attempt ?_ .error
    intro a b _
    cases a <;> cases b <;> exact agree_note (by exact trivial) _
  | some n =>
    have returned : Agree (World.Like (Entry.ClosingOf l.member.id) before) SameCut
        (onPool n (Pool.giveBack l.member)) (onPool n (Pool.giveBack m.member)) :=
      agree_onPool n (Pool.agree_giveBack h.member) (.cut _)
    refine Agree.bind returned.attempt ?_ .error
    intro a b _
    cases a <;> cases b <;> exact agree_note (by exact trivial) _

end ConnectorHub
