import ConnectorHub.Hub.Registry
import ConnectorHub.Proofs.Hub.Frame
import Mathlib.Data.List.Nodup

namespace ConnectorHub

open ConnectorHub.Action

variable {σ κ : Type}

namespace World

/-- The world with a note more. -/
def noted (w : World σ κ) (n : Note) : World σ κ :=
  { w with site := { w.site with journal := w.site.journal ++ [.noted n] } }

def facadeMade (w : World σ κ) : World σ κ := { w with facades := w.facades + 1 }

end World

namespace Pool

variable {f : Factory σ κ} {properties : Fields} {settings : PoolSettings}

theorem new_ok {p : Pool σ κ} (h : new f properties settings = .ok p) :
    settings.validate = .ok () ∧
      p = ⟨f, properties, settings, ⟨settings.maxObjects.toNat, [], []⟩, [], false⟩ := by
  unfold new at h
  split at h
  · cases h
  · next valid => exact ⟨valid, (Except.ok.inj h).symm⟩

theorem new_error {e : Error} (h : new f properties settings = .error e) :
    settings.validate = .error e := by
  unfold new at h
  split at h
  · next invalid => rw [invalid, Except.error.inj h]
  · cases h

end Pool

namespace Registry

variable {r r' : Registry σ κ} {w w' : World σ κ} {f : Factory σ κ} {key : ConnectorKey}
  {c : Configuration}

/-- The pool of the facade that is made, with the registry and the world afterwards. -/
inductive Serves (r : Registry σ κ) (w : World σ κ) (f : Factory σ κ) (c : Configuration) :
    Option Nat → Registry σ κ → World σ κ → Prop where
  | unpooled (off : c.poolingEnabled = false) : Serves r w f c none r w.facadeMade
  | shared (on : c.poolingEnabled = true) {id : Nat}
    (found : r.pool? ⟨f.key, c.sharingKey⟩ = some id) : Serves r w f c (some id) r w.facadeMade
  | opened (on : c.poolingEnabled = true) (missing : r.pool? ⟨f.key, c.sharingKey⟩ = none)
    {p : Pool σ κ} (new : Pool.new f c.properties c.pool = .ok p) :
    Serves r w f c (some w.pools.length)
      { r with pools := r.pools ++ [(⟨f.key, c.sharingKey⟩, w.pools.length)] }
      { (w.noted (.creatingPool f.key)).facadeMade with pools := w.pools ++ [p] }

/-- Why no facade is made, with the world afterwards. -/
inductive Refuses (r : Registry σ κ) (w : World σ κ) (key : ConnectorKey) (c : Configuration) :
    Error → World σ κ → Prop where
  | unregistered (missing : r.find? key = none) : Refuses r w key c (.notRegistered key) w
  | invalid {f : Factory σ κ} {e : Error} (found : r.find? key = some f)
    (on : c.poolingEnabled = true) (missing : r.pool? ⟨key, c.sharingKey⟩ = none)
    (invalid : c.pool.validate = .error e) :
    Refuses r w key c e (w.noted (.creatingPool key))

theorem key_of_find? (h : r.find? key = some f) : f.key = key := by
  simpa using List.find?_some h

theorem sharedPool_of_missing (missing : r.pool? ⟨f.key, c.sharingKey⟩ = none) :
    r.sharedPool f c w = match Pool.new f c.properties c.pool with
      | .ok p => (.ok (w.pools.length,
          { r with pools := r.pools ++ [(⟨f.key, c.sharingKey⟩, w.pools.length)] }),
          { w.noted (.creatingPool f.key) with pools := w.pools ++ [p] })
      | .error e => (.error (.error e), w.noted (.creatingPool f.key)) := by
  unfold sharedPool
  dsimp only
  rw [missing]
  cases opened : Pool.new f c.properties c.pool with
  | ok p => simp [World.addPool, opened, bind_apply, World.note, World.onSite, zoom, Site.note,
      Site.write, Action.ofExcept, World.noted]
  | error e => simp [World.addPool, opened, bind_apply, World.note, World.onSite, zoom, Site.note,
      Site.write, Action.ofExcept, World.noted]

theorem sharedPool_of_found {id : Nat} (found : r.pool? ⟨f.key, c.sharingKey⟩ = some id) :
    r.sharedPool f c w = (.ok (id, r), w) := by
  unfold sharedPool
  rw [found]
  rfl

/-- What comes of a request for a facade. -/
theorem newFacade_cases (r : Registry σ κ) (key : ConnectorKey) (c : Configuration)
    (w : World σ κ) :
    match r.newFacade key c w with
    | (.ok (facade, r'), w') => ∃ f pool, r.find? key = some f ∧ facade.context = ⟨f, c, pool⟩ ∧
        r.Serves w f c pool r' w'
    | (.error why, w') => ∃ e, why = .error e ∧ r.Refuses w key c e w' := by
  unfold newFacade
  cases found : r.find? key with
  | none => exact ⟨_, rfl, .unregistered found⟩
  | some f =>
    dsimp only
    cases on : c.poolingEnabled with
    | false =>
      simp only [Bool.false_eq_true, if_false, Context.new, on]
      exact ⟨f, none, rfl, rfl, .unpooled on⟩
    | true =>
      simp only [if_true, bind_apply]
      cases pool : r.pool? ⟨f.key, c.sharingKey⟩ with
      | some id =>
        rw [sharedPool_of_found pool]
        exact ⟨f, some id, rfl, rfl, .shared on pool⟩
      | none =>
        rw [sharedPool_of_missing pool]
        cases new : Pool.new f c.properties c.pool with
        | ok p => exact ⟨f, some w.pools.length, rfl, rfl, .opened on pool new⟩
        | error e =>
          obtain rfl : f.key = key := key_of_find? found
          exact ⟨e, rfl, .invalid found on pool (Pool.new_error new)⟩

namespace Serves

variable {pool : Option Nat}

theorem isNone (h : r.Serves w f c pool r' w') (off : c.poolingEnabled = false) : pool = none := by
  cases h with
  | unpooled => rfl
  | shared on => exact absurd (on.symm.trans off) Bool.noConfusion
  | opened on => exact absurd (on.symm.trans off) Bool.noConfusion

theorem length_le (h : r.Serves w f c pool r' w') : w.pools.length ≤ w'.pools.length := by
  cases h with
  | unpooled => exact Nat.le_refl _
  | shared => exact Nat.le_refl _
  | opened => exact (List.length_append ▸ Nat.le_add_right _ _ : _ ≤ (w.pools ++ [_]).length)

theorem subset (h : r.Serves w f c pool r' w') : r.pools ⊆ r'.pools := by
  cases h with
  | unpooled => exact List.Subset.refl _
  | shared => exact List.Subset.refl _
  | opened => exact List.subset_append_left _ _

/-- What is new in the registry was asked for. -/
theorem asked (h : r.Serves w f c pool r' w') {e : PoolKey × Nat} (he : e ∈ r'.pools) :
    e ∈ r.pools ∨
      e.1 = ⟨f.key, c.sharingKey⟩ ∧ c.poolingEnabled = true ∧ c.pool.validate = .ok () := by
  cases h with
  | unpooled => exact .inl he
  | shared => exact .inl he
  | opened on missing new =>
    refine (List.mem_append.mp he).imp_right fun he => ?_
    exact ⟨congrArg Prod.fst (List.mem_singleton.mp he), on, (Pool.new_ok new).1⟩

theorem listed (h : r.Serves w f c pool r' w') (on : c.poolingEnabled = true) :
    ∃ id, pool = some id ∧ (⟨f.key, c.sharingKey⟩, id) ∈ r'.pools := by
  cases h with
  | unpooled off => exact absurd (on.symm.trans off) Bool.noConfusion
  | @shared _ id found =>
    obtain ⟨e, he, rfl⟩ := Option.map_eq_some_iff.mp found
    have key : e.1 = ⟨f.key, c.sharingKey⟩ := by simpa using List.find?_some he
    exact ⟨e.2, rfl, key ▸ List.mem_of_find?_eq_some he⟩
  | opened => exact ⟨w.pools.length, rfl, List.mem_append_right _ (List.mem_singleton_self _)⟩

theorem keys_nodup (h : r.Serves w f c pool r' w') (before : (r.pools.map Prod.fst).Nodup) :
    (r'.pools.map Prod.fst).Nodup := by
  cases h with
  | unpooled => exact before
  | shared => exact before
  | opened on missing new =>
    rw [List.map_append, List.map_cons, List.map_nil, List.nodup_append]
    refine ⟨before, List.nodup_singleton _, ?_⟩
    rintro k hk l hl rfl
    rw [pool?, Option.map_eq_none_iff, List.find?_eq_none] at missing
    obtain ⟨e, he, rfl⟩ := List.mem_map.mp hk
    exact missing e he (by simpa using hl)

theorem there (h : r.Serves w f c pool r' w') (before : ∀ e ∈ r.pools, e.2 < w.pools.length) :
    ∀ e ∈ r'.pools, e.2 < w'.pools.length := by
  cases h with
  | unpooled => exact before
  | shared => exact before
  | opened =>
    intro e he
    rw [List.length_append, List.length_singleton]
    rcases List.mem_append.mp he with he | he
    · exact Nat.lt_succ_of_lt (before e he)
    · rw [List.mem_singleton.mp he]
      exact Nat.lt_succ_self _

theorem ids_nodup (h : r.Serves w f c pool r' w') (there : ∀ e ∈ r.pools, e.2 < w.pools.length)
    (before : (r.pools.map Prod.snd).Nodup) : (r'.pools.map Prod.snd).Nodup := by
  cases h with
  | unpooled => exact before
  | shared => exact before
  | opened =>
    rw [List.map_append, List.map_cons, List.map_nil, List.nodup_append]
    refine ⟨before, List.nodup_singleton _, ?_⟩
    rintro n hn m hm rfl
    obtain ⟨e, he, rfl⟩ := List.mem_map.mp hn
    exact Nat.ne_of_lt (there e he) (List.mem_singleton.mp hm)

end Serves

/-- Closes the pool of an entry of the registry. -/
def closing (e : PoolKey × Nat) : Action (World σ κ) Unit := do
  World.note (.closingPool e.1.connector)
  World.onPool e.2 Pool.close

theorem closePools_eq (r : Registry σ κ) : r.closePools = Action.forEach r.pools closing := rfl

theorem closing_factories (e : PoolKey × Nat) (w : World σ κ) :
    Keeps (fun v : World σ κ => v.factories = w.factories) (closing e) := by
  refine Keeps.bind (fun v hv => hv) fun _ v hv => ?_
  exact (World.onPool_apart e.2 (fun f => (Pool.factory_lasting f).close) v).factories.trans hv

theorem closePools_factories (r : Registry σ κ) (w : World σ κ) :
    (r.closePools w).2.factories = w.factories :=
  Keeps.forEach (fun e => closing_factories e w) r.pools w rfl

end Registry

end ConnectorHub
