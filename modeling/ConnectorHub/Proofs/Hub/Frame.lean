import ConnectorHub.Proofs.Hub.Release
import ConnectorHub.Proofs.Pool.Lasting

namespace ConnectorHub

open ConnectorHub.Action

variable {σ κ ρ α : Type}

/-- Whose instances the pools keep. -/
def World.factories (w : World σ κ) : List (Factory σ κ) := w.pools.map Pool.factory

/-- From one world to the other no pool has changed but the one, and none has come or gone. -/
structure World.Apart (pool : Option Nat) (w w' : World σ κ) : Prop where
  factories : w'.factories = w.factories
  others {k : Nat} : some k ≠ pool → w'.pools[k]? = w.pools[k]?

namespace World

variable {pool : Option Nat} {w w' w'' : World σ κ}

theorem length_of_factories_eq (h : w'.factories = w.factories) :
    w'.pools.length = w.pools.length := by
  have same := congrArg List.length h
  rwa [factories, factories, List.length_map, List.length_map] at same

theorem Apart.length (h : w.Apart pool w') : w'.pools.length = w.pools.length :=
  length_of_factories_eq h.factories

theorem apart_of_pools_eq (h : w'.pools = w.pools) : w.Apart pool w' where
  factories := by rw [factories, h, factories]
  others _ := by rw [h]

theorem Apart.trans (h : w.Apart pool w') (h' : w'.Apart pool w'') : w.Apart pool w'' where
  factories := h'.factories.trans h.factories
  others other := (h'.others other).trans (h.others other)

theorem Apart.pools_eq (h : w.Apart none w') : w'.pools = w.pools := by
  apply List.ext_getElem?
  intro k
  exact h.others (by simp)

theorem onSite_apart (x : Action (Site σ κ) α) (w : World σ κ) : w.Apart pool (onSite x w).2 :=
  apart_of_pools_eq rfl

theorem onPool_apart (n : Nat) {x : Action (Pool.At σ κ) α}
    (hx : ∀ f, Keeps (fun s => s.2.factory = f) x) (w : World σ κ) :
    w.Apart (some n) (onPool n x w).2 := by
  unfold onPool
  cases hp : w.pools[n]? with
  | none => exact apart_of_pools_eq rfl
  | some p =>
    have own : (x (w.site, p)).2.2.factory = p.factory := hx p.factory (w.site, p) rfl
    refine ⟨?_, fun {k} other => ?_⟩
    · show (w.pools.set n (x (w.site, p)).2.2).map Pool.factory = w.pools.map Pool.factory
      obtain ⟨hn, rfl⟩ := List.getElem?_eq_some_iff.mp hp
      rw [List.map_set, own, ← List.getElem_map Pool.factory (h := by rwa [List.length_map]),
        List.set_getElem_self]
    · have elsewhere : n ≠ k := fun same => other (congrArg some same.symm)
      exact List.getElem?_set_ne elsewhere

theorem keeps_apart {x : Action (World σ κ) α} (h : ∀ v : World σ κ, v.Apart pool (x v).2)
    (w : World σ κ) :
    Keeps (w.Apart pool) x :=
  fun v hv => hv.trans (h v)

theorem keeps_onPool {I : Pool.At σ κ → Prop} {n : Nat} {x : Action (Pool.At σ κ) α}
    (hx : Keeps I x) : Keeps (AtPool n I) (onPool n x) := by
  rintro w ⟨p, hp, held⟩
  have hn := (List.getElem?_eq_some_iff.mp hp).1
  unfold onPool
  rw [hp]
  exact ⟨_, List.getElem?_set_self hn, hx _ held⟩

theorem keeps_note {I : Pool.At σ κ → Prop} {n : Nat}
    (notes : ∀ s p m, I (s, p) → I ({ s with journal := s.journal ++ [.noted m] }, p)) (m : Note) :
    Keeps (AtPool n I) (note m) := by
  rintro w ⟨p, hp, held⟩
  exact ⟨p, hp, notes _ _ _ held⟩

end World

namespace Lease

section

variable {I : Pool.At σ κ → Prop} {n : Nat}
  (notes : ∀ s p m, I (s, p) → I ({ s with journal := s.journal ++ [.noted m] }, p))
include notes

theorem acquire_keeps {c : Context σ κ} (hc : c.pool = some n) (borrows : Keeps I Pool.borrow) :
    Keeps (World.AtPool n I) (acquire c) := by
  unfold acquire
  rw [hc]
  exact (World.keeps_onPool borrows).bind fun i => (World.keeps_note notes _).bind fun _ _ hw => hw

theorem release_keeps {l : Lease σ κ} (hl : l.pool = some n)
    (returns : Keeps I (Pool.giveBack l.member)) : Keeps (World.AtPool n I) l.release := by
  unfold release
  rw [hl]
  refine (World.keeps_onPool returns).attempt.bind fun result => ?_
  cases result <;> exact World.keeps_note notes _

end

theorem acquire_apart (c : Context σ κ) (w : World σ κ) :
    w.Apart c.pool (acquire c w).2 := by
  have start : w.Apart c.pool w := World.apart_of_pools_eq rfl
  unfold acquire
  cases hc : c.pool with
  | some n =>
    rw [hc] at start
    have borrows := World.keeps_apart
      (World.onPool_apart n fun f : Factory σ κ => (Pool.factory_lasting f).borrow) w
    exact (borrows.bind fun i => (World.keeps_apart (World.onSite_apart _) w).bind fun _ _ hw => hw)
      w start
  | none =>
    rw [hc] at start
    exact ((World.keeps_apart (World.onSite_apart _) w).bind fun i =>
      (World.keeps_apart (World.onSite_apart _) w).bind fun _ => Keeps.pure _) w start

theorem release_apart (l : Lease σ κ) (w : World σ κ) : w.Apart l.pool (l.release w).2 := by
  have start : w.Apart l.pool w := World.apart_of_pools_eq rfl
  have notes (n : Note) : Keeps (w.Apart l.pool) (World.note n) :=
    World.keeps_apart (World.onSite_apart _) w
  unfold release
  cases hl : l.pool with
  | some n =>
    rw [hl] at start notes
    have returns := World.keeps_apart
      (World.onPool_apart n fun f => (Pool.factory_lasting f).giveBack l.member) w
    refine (returns.attempt.bind fun result => ?_) w start
    cases result <;> exact notes _
  | none =>
    rw [hl] at start notes
    refine ((World.keeps_apart (World.onSite_apart _) w).attempt.bind fun result => ?_) w start
    cases result <;> exact notes _

end Lease

theorem Context.Course.apart {c : Context σ κ} {w w' : World σ κ} {result : Except Stop α}
    (h : c.Course w w' result) : w.Apart c.pool w' := by
  cases h with
  | refused e told same => exact World.apart_of_pools_eq (congrArg World.pools same)
  | unacquired why acquired failed =>
    have first := Lease.acquire_apart c w
    rwa [failed] at first
  | served l w₁ w₂ acquired work closing leased taken upkeep worked still ofMember released =>
    have pool : l.pool = c.pool := (Lease.acquire_pool c).ok trivial leased
    have first := Lease.acquire_apart c w
    have last := l.release_apart w₂
    rw [leased] at first
    rw [released, pool] at last
    exact (first.trans (World.apart_of_pools_eq still)).trans last

theorem Facade.perform_course (f : Facade σ κ) (x : Request ρ) (w : World σ κ) (r : ρ) :
    f.context.Course w (f.perform x (w, r)).2.1 (f.perform x (w, r)).1 :=
  (((Alike.refl f).together x).course (.refl f.context) (.refl w) r).1

theorem Facade.perform_apart (f : Facade σ κ) (x : Request ρ) (w : World σ κ) (r : ρ) :
    w.Apart f.context.pool (f.perform x (w, r)).2.1 :=
  (f.perform_course x w r).apart

end ConnectorHub
