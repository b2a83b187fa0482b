import ConnectorHub.Proofs.Configuration.Sharing
import ConnectorHub.Proofs.Hub.Frame
import ConnectorHub.Proofs.Hub.History
import ConnectorHub.Proofs.Hub.Making
import ConnectorHub.Proofs.Pool.Closed

namespace ConnectorHub

open ConnectorHub.Action
open Json (ToldApart)

variable {σ κ ρ : Type}

namespace Made

def pooled (m : Made σ κ) : Bool := m.configuration.poolingEnabled

def pool (m : Made σ κ) : Option Nat := m.facade.context.pool

/-- What the registry keeps the pool under. -/
def poolKey (m : Made σ κ) : PoolKey := ⟨m.key, m.configuration.sharingKey⟩

/-- What was asked for. -/
def request (m : Made σ κ) : ConnectorKey × Json := (m.key, m.configuration.toDocument)

end Made

namespace Hub

variable {u v : Hub σ κ}

/-- Nothing that the sharing of pools depends on is different. -/
structure Still (u v : Hub σ κ) : Prop where
  made : v.made = u.made
  era : v.era = u.era
  shared : v.registry.pools = u.registry.pools
  torn : v.torn = u.torn
  factories : v.world.factories = u.world.factories

/-- What a move does to the sharing of pools. -/
inductive Stepped (u : Hub σ κ) : Hub σ κ → Prop where
  | still {v : Hub σ κ} (h : u.Still v) : Stepped u v
  | made {facade : Facade σ κ} {key : ConnectorKey} {c : Configuration} {f : Factory σ κ}
    {pool : Option Nat} {registry : Registry σ κ} {w : World σ κ}
    (found : u.registry.find? key = some f) (context : facade.context = ⟨f, c, pool⟩)
    (served : u.registry.Serves u.world f c pool registry w) :
    Stepped u { u with
      world := w
      registry := registry
      made := u.made ++ [⟨facade, key, c, some f, u.era⟩] }
  | swept {v : Hub σ κ} (made : v.made = u.made) (era : v.era = u.era + 1)
    (forgotten : v.registry.pools = []) (world : v.world = (u.registry.closePools u.world).2)
    (torn : v.torn = (u.torn || Pool.cutBy (u.registry.closePools u.world).1)) : Stepped u v

theorem progress_still (u : Hub σ κ) (key : ConnectorKey) (pool : Nat)
    {ended : Except Stop (Pool.Progress σ κ) × World σ κ}
    (factories : ended.2.factories = u.world.factories) :
    u.Still (u.progress key pool ended) := by
  obtain ⟨result, w⟩ := ended
  cases result with
  | error why => exact ⟨rfl, rfl, rfl, rfl, factories⟩
  | ok progress =>
    cases progress with
    | waiting w => exact ⟨rfl, rfl, rfl, rfl, factories⟩
    | ended result => cases result <;> exact ⟨rfl, rfl, rfl, rfl, factories⟩

theorem goOn_still (u : Hub σ κ) (n : Nat)
    {x : Pool.Progress σ κ → Action (Pool.At σ κ) (Pool.Progress σ κ)}
    (hx : ∀ f progress, Keeps (fun s => s.2.factory = f) (x progress)) : u.Still (u.goOn n x) := by
  unfold goOn
  split
  · next b _ =>
    have gone := progress_still { u with waiting := u.waiting.eraseIdx n } b.key b.pool
      (World.onPool_apart b.pool (fun f => hx f (.waiting b.waiter)) u.world).factories
    exact ⟨gone.made, gone.era, gone.shared, gone.torn, gone.factories⟩
  · exact ⟨rfl, rfl, rfl, rfl, rfl⟩

theorem step_cases (u : Hub σ κ) (m : Move σ κ ρ) : u.Stepped (u.step m) := by
  cases m with
  | register f => exact .still ⟨rfl, rfl, rfl, rfl, rfl⟩
  | newFacade key c =>
    have served := u.registry.newFacade_cases key c u.world
    rw [step]
    generalize u.registry.newFacade key c u.world = made at served ⊢
    obtain ⟨result, w⟩ := made
    cases result with
    | ok made =>
      obtain ⟨f, pool, found, context, served⟩ := served
      dsimp only
      rw [found]
      exact .made found context served
    | error why =>
      obtain ⟨e, -, refused⟩ := served
      cases refused with
      | unregistered missing => exact .still ⟨rfl, rfl, rfl, rfl, rfl⟩
      | invalid found on missing bad => exact .still ⟨rfl, rfl, rfl, rfl, rfl⟩
  | disposeAll => exact .swept rfl rfl rfl rfl rfl
  | call n x caller =>
    rw [step]
    split
    · next made _ =>
      exact .still ⟨rfl, rfl, rfl, rfl, (made.facade.perform_apart x u.world caller).factories⟩
    · exact .still ⟨rfl, rfl, rfl, rfl, rfl⟩
  | hold n =>
    rw [step]
    split
    · next made _ =>
      have apart := Lease.acquire_apart made.facade.context u.world
      generalize Lease.acquire made.facade.context u.world = ended at apart ⊢
      obtain ⟨result, w⟩ := ended
      cases result <;> exact .still ⟨rfl, rfl, rfl, rfl, apart.factories⟩
    · exact .still ⟨rfl, rfl, rfl, rfl, rfl⟩
  | release n =>
    rw [step]
    split
    · next l _ => exact .still ⟨rfl, rfl, rfl, rfl, (l.release_apart u.world).factories⟩
    · exact .still ⟨rfl, rfl, rfl, rfl, rfl⟩
  | begin n =>
    rw [step]
    split
    · split
      · exact .still (u.progress_still _ _
          (World.onPool_apart _ (fun f => (Pool.factory_lasting f).begin) u.world).factories)
      · exact .still ⟨rfl, rfl, rfl, rfl, rfl⟩
    · exact .still ⟨rfl, rfl, rfl, rfl, rfl⟩
  | resume n => exact .still (u.goOn_still n fun f => (Pool.factory_lasting f).resume)
  | expire n => exact .still (u.goOn_still n fun f => (Pool.factory_lasting f).expire _)
  | wait ms => exact .still ⟨rfl, rfl, rfl, rfl, rfl⟩
  | turn resource => exact .still ⟨rfl, rfl, rfl, rfl, rfl⟩

/-- The registry maps what was asked for since its pools were last disposed of to pools, one to one.
-/
structure Mapped (u : Hub σ κ) : Prop where
  keys : (u.registry.pools.map Prod.fst).Nodup
  ids : (u.registry.pools.map Prod.snd).Nodup
  there : ∀ e ∈ u.registry.pools, e.2 < u.world.pools.length
  past : ∀ m ∈ u.made, m.era ≤ u.era
  unpooled : ∀ m ∈ u.made, m.pooled = false → m.pool = none
  pooled : ∀ m ∈ u.made, m.pooled = true → ∃ id < u.world.pools.length, m.pool = some id
  listed : ∀ m ∈ u.made, m.pooled = true → m.era = u.era →
    ∃ id, m.pool = some id ∧ (m.poolKey, id) ∈ u.registry.pools
  asked : ∀ e ∈ u.registry.pools, ∃ m ∈ u.made, m.pooled = true ∧ m.era = u.era ∧
    m.poolKey = e.1 ∧ m.configuration.pool.validate = .ok ()
  shared : ∀ m ∈ u.made, ∀ m' ∈ u.made, m.pooled = true → m'.pooled = true → m.era = m'.era →
    (m.pool = m'.pool ↔ m.poolKey = m'.poolKey)

theorem start_mapped (reserved : ReservedNames) (site : Site σ κ) :
    (start reserved site).Mapped where
  keys := List.nodup_nil
  ids := List.nodup_nil
  there _ he := nomatch he
  past _ hm := nomatch hm
  unpooled _ hm := nomatch hm
  pooled _ hm := nomatch hm
  listed _ hm := nomatch hm
  asked _ he := nomatch he
  shared _ hm := nomatch hm

namespace Mapped

theorem still (h : u.Mapped) (hv : u.Still v) : v.Mapped where
  keys := hv.shared ▸ h.keys
  ids := hv.shared ▸ h.ids
  there := by
    rw [hv.shared, World.length_of_factories_eq hv.factories]
    exact h.there
  past := by
    rw [hv.made, hv.era]
    exact h.past
  unpooled := hv.made ▸ h.unpooled
  pooled := by
    rw [hv.made, World.length_of_factories_eq hv.factories]
    exact h.pooled
  listed := by
    rw [hv.made, hv.era, hv.shared]
    exact h.listed
  asked := by
    rw [hv.made, hv.era, hv.shared]
    exact h.asked
  shared := hv.made ▸ h.shared

theorem swept (h : u.Mapped) (made : v.made = u.made) (era : v.era = u.era + 1)
    (forgotten : v.registry.pools = []) (factories : v.world.factories = u.world.factories) :
    v.Mapped where
  keys := by
    rw [forgotten]
    exact List.nodup_nil
  ids := by
    rw [forgotten]
    exact List.nodup_nil
  there e he := by
    rw [forgotten] at he
    exact absurd he List.not_mem_nil
  past := by
    rw [made, era]
    exact fun m hm => Nat.le_succ_of_le (h.past m hm)
  unpooled := made ▸ h.unpooled
  pooled := by
    rw [made, World.length_of_factories_eq factories]
    exact h.pooled
  listed := by
    rw [made, era]
    intro m hm _ now
    have before := h.past m hm
    omega
  asked e he := by
    rw [forgotten] at he
    exact absurd he List.not_mem_nil
  shared := made ▸ h.shared

/-- Facades of the current era share their pool where the registry has one key for both. -/
theorem shared_of_listed {entries : List (PoolKey × Nat)} (keys : (entries.map Prod.fst).Nodup)
    (ids : (entries.map Prod.snd).Nodup) {m m' : Made σ κ}
    (listed : ∃ id, m.pool = some id ∧ (m.poolKey, id) ∈ entries)
    (listed' : ∃ id, m'.pool = some id ∧ (m'.poolKey, id) ∈ entries) :
    m.pool = m'.pool ↔ m.poolKey = m'.poolKey := by
  obtain ⟨id, pool, hid⟩ := listed
  obtain ⟨id', pool', hid'⟩ := listed'
  rw [pool, pool', Option.some.injEq]
  constructor
  · intro same
    exact congrArg Prod.fst (List.inj_on_of_nodup_map ids hid hid' same)
  · intro same
    exact congrArg Prod.snd (List.inj_on_of_nodup_map keys hid hid' same)

variable {facade : Facade σ κ} {key : ConnectorKey} {c : Configuration} {f : Factory σ κ}
  {pool : Option Nat} {registry : Registry σ κ} {w : World σ κ}

theorem made (h : u.Mapped) (found : u.registry.find? key = some f)
    (context : facade.context = ⟨f, c, pool⟩)
    (served : u.registry.Serves u.world f c pool registry w) : Mapped { u with
      world := w
      registry := registry
      made := u.made ++ [⟨facade, key, c, some f, u.era⟩] } := by
  obtain rfl : f.key = key := Registry.key_of_find? found
  have its : facade.context.pool = pool := congrArg Context.pool context
  have keys := served.keys_nodup h.keys
  have ids := served.ids_nodup h.there h.ids
  have there := served.there h.there
  have listed : ∀ m ∈ u.made ++ [⟨facade, f.key, c, some f, u.era⟩], m.pooled = true →
      m.era = u.era → ∃ id, m.pool = some id ∧ (m.poolKey, id) ∈ registry.pools := by
    intro m hm on now
    rcases List.mem_append.mp hm with hm | hm
    · obtain ⟨id, pool, hid⟩ := h.listed m hm on now
      exact ⟨id, pool, served.subset hid⟩
    · obtain rfl := List.mem_singleton.mp hm
      obtain ⟨id, pool, hid⟩ := served.listed on
      exact ⟨id, its.trans pool, hid⟩
  refine {
    keys := keys
    ids := ids
    there := there
    past := ?_
    unpooled := ?_
    pooled := ?_
    listed := listed
    asked := ?_
    shared := ?_ }
  · intro m hm
    rcases List.mem_append.mp hm with hm | hm
    · exact h.past m hm
    · rw [List.mem_singleton.mp hm]
  · intro m hm off
    rcases List.mem_append.mp hm with hm | hm
    · exact h.unpooled m hm off
    · obtain rfl := List.mem_singleton.mp hm
      exact its.trans (served.isNone off)
  · intro m hm on
    rcases List.mem_append.mp hm with hm | hm
    · obtain ⟨id, hid, pool⟩ := h.pooled m hm on
      exact ⟨id, Nat.lt_of_lt_of_le hid served.length_le, pool⟩
    · obtain rfl := List.mem_singleton.mp hm
      obtain ⟨id, pool, hid⟩ := served.listed on
      exact ⟨id, there _ hid, its.trans pool⟩
  · intro e he
    rcases served.asked he with he | ⟨same, on, valid⟩
    · obtain ⟨m, hm, asked⟩ := h.asked e he
      exact ⟨m, List.mem_append_left _ hm, asked⟩
    · exact ⟨_, List.mem_append_right _ (List.mem_singleton_self _), on, rfl, same.symm, valid⟩
  · intro m hm m' hm' on on' same
    by_cases now : m.era = u.era
    · exact shared_of_listed keys ids (listed m hm on now) (listed m' hm' on' (same ▸ now))
    · -- The new facade is of the current era, so both are older.
      have older {m : Made σ κ} (hm : m ∈ u.made ++ [⟨facade, f.key, c, some f, u.era⟩])
          (past : m.era ≠ u.era) : m ∈ u.made := by
        rcases List.mem_append.mp hm with hm | hm
        · exact hm
        · exact absurd (congrArg Made.era (List.mem_singleton.mp hm)) past
      exact h.shared m (older hm now) m' (older hm' (same ▸ now)) on on' same

theorem step (h : u.Mapped) (m : Move σ κ ρ) : (u.step m).Mapped := by
  have cases := u.step_cases m
  generalize u.step m = v at cases ⊢
  cases cases with
  | still hv => exact h.still hv
  | made found context served => exact h.made found context served
  | swept made era forgotten world =>
    exact h.swept made era forgotten (world ▸ u.registry.closePools_factories u.world)

theorem run (h : u.Mapped) (moves : List (Move σ κ ρ)) : (u.run moves).Mapped := by
  induction moves generalizing u with
  | nil => exact h
  | cons m moves ih => exact ih (h.step m)

/-- A facade that uses a pool asked for one, and it is there. -/
theorem uses (h : u.Mapped) {m : Made σ κ} (hm : m ∈ u.made) {n : Nat} (uses : m.pool = some n) :
    m.pooled = true ∧ n < u.world.pools.length := by
  cases on : m.pooled with
  | false =>
    rw [h.unpooled m hm on] at uses
    cases uses
  | true =>
    obtain ⟨id, there, pool⟩ := h.pooled m hm on
    exact ⟨rfl, Option.some.inj (pool.symm.trans uses) ▸ there⟩

end Mapped

/-- The pooled facades that were made since the pools were last disposed of. -/
def current (u : Hub σ κ) : List (Made σ κ) :=
  u.made.filter fun m => m.pooled && m.era == u.era

theorem mem_current {m : Made σ κ} :
    m ∈ u.current ↔ m ∈ u.made ∧ m.pooled = true ∧ m.era = u.era := by
  simp [current]

/-- As many pools as keys of current facades. -/
theorem Mapped.poolCount (h : u.Mapped) :
    u.registry.poolCount = (u.current.map Made.poolKey).dedup.length := by
  have same : (u.registry.pools.map Prod.fst).Perm (u.current.map Made.poolKey).dedup := by
    refine (List.perm_ext_iff_of_nodup h.keys (List.nodup_dedup _)).mpr fun k => ?_
    simp only [List.mem_dedup, List.mem_map]
    constructor
    · rintro ⟨e, he, rfl⟩
      obtain ⟨m, hm, on, now, key, -⟩ := h.asked e he
      exact ⟨m, mem_current.mpr ⟨hm, on, now⟩, key⟩
    · rintro ⟨m, hm, rfl⟩
      obtain ⟨hm, on, now⟩ := mem_current.mp hm
      obtain ⟨id, -, hid⟩ := h.listed m hm on now
      exact ⟨_, hid, rfl⟩
  rw [Registry.poolCount, ← same.length_eq, List.length_map]

/-- The reals in the pooled configurations are told apart by how they are written. -/
def Legible (u : Hub σ κ) : Prop :=
  ∀ m ∈ u.made, ∀ m' ∈ u.made, m.pooled = true → m'.pooled = true →
    ToldApart m.configuration.reals m'.configuration.reals

/-- How pools are shared, at any time. -/
structure Shares (u : Hub σ κ) : Prop where
  /-- Between two disposals of all pools, one pool for one connector and one configuration. -/
  shared : ∀ m ∈ u.made, ∀ m' ∈ u.made, m.pooled = true → m'.pooled = true → m.era = m'.era →
    (m.pool = m'.pool ↔
      m.key = m'.key ∧ m.configuration.toDocument = m'.configuration.toDocument)
  pooled : ∀ m ∈ u.made, m.pooled = true → ∃ id < u.world.pools.length, m.pool = some id
  counted : u.registry.poolCount = (u.current.map Made.request).dedup.length
  /-- A facade without pooling has no pool, and whatever it is asked changes none. -/
  unpooled : ∀ m ∈ u.made, m.pooled = false → m.pool = none ∧
    ∀ (ρ : Type) (x : Request ρ) (r : ρ),
      (m.facade.perform x (u.world, r)).2.1.pools = u.world.pools
  unpooled_request (key : ConnectorKey) (c : Configuration) : c.poolingEnabled = false →
    (u.step (.newFacade key c : Move σ κ Unit)).registry = u.registry ∧
      (u.step (.newFacade key c : Move σ κ Unit)).world.pools = u.world.pools
  /-- A request fails for one of two causes. -/
  fails_iff (key : ConnectorKey) (c : Configuration)
    (apart : ∀ m ∈ u.current, ToldApart m.configuration.reals c.reals) :
    (∃ why, (u.registry.newFacade key c u.world).1 = .error why) ↔
      u.registry.find? key = none ∨
        c.poolingEnabled = true ∧ ∃ e, c.pool.validate = .error e
  /-- A request that fails leaves all as it was. -/
  failed (key : ConnectorKey) (c : Configuration) (why : Stop) :
    (u.registry.newFacade key c u.world).1 = .error why →
      (u.step (.newFacade key c : Move σ κ Unit)).registry = u.registry ∧
      (u.step (.newFacade key c : Move σ κ Unit)).made = u.made ∧
      (u.step (.newFacade key c : Move σ κ Unit)).world.pools = u.world.pools

theorem request_eq_iff (legible : u.Legible) {m m' : Made σ κ} (hm : m ∈ u.made) (hm' : m' ∈ u.made)
    (on : m.pooled = true) (on' : m'.pooled = true) :
    m.poolKey = m'.poolKey ↔ m.request = m'.request := by
  have text := Configuration.sharingKey_eq_iff (legible m hm m' hm' on on')
  simp only [Made.poolKey, Made.request, PoolKey.mk.injEq, Prod.mk.injEq, text]

theorem dedup_map_length {α β γ : Type} [DecidableEq β] [DecidableEq γ] {f : α → β} {g : α → γ}
    {xs : List α} (same : ∀ a ∈ xs, ∀ b ∈ xs, f a = f b ↔ g a = g b) :
    (xs.map f).dedup.length = (xs.map g).dedup.length := by
  induction xs with
  | nil => rfl
  | cons a xs ih =>
    have later := ih fun b hb c hc => same b (List.mem_cons_of_mem a hb) c (List.mem_cons_of_mem a hc)
    have again : f a ∈ xs.map f ↔ g a ∈ xs.map g := by
      simp only [List.mem_map]
      refine exists_congr fun b => and_congr_right fun hb => ?_
      exact same b (List.mem_cons_of_mem a hb) a List.mem_cons_self
    by_cases known : f a ∈ xs.map f
    · rw [List.map_cons, List.map_cons, List.dedup_cons_of_mem known,
        List.dedup_cons_of_mem (again.mp known), later]
    · rw [List.map_cons, List.map_cons, List.dedup_cons_of_notMem known,
        List.dedup_cons_of_notMem (mt again.mpr known), List.length_cons, List.length_cons, later]

theorem Mapped.shares (h : u.Mapped) (legible : u.Legible) : u.Shares where
  shared m hm m' hm' on on' now := by
    have request := (h.shared m hm m' hm' on on' now).trans (request_eq_iff legible hm hm' on on')
    simpa only [Made.request, Prod.mk.injEq] using request
  pooled := h.pooled
  counted := by
    refine h.poolCount.trans (dedup_map_length fun m hm m' hm' => ?_)
    obtain ⟨hm, on, -⟩ := mem_current.mp hm
    obtain ⟨hm', on', -⟩ := mem_current.mp hm'
    exact request_eq_iff legible hm hm' on on'
  unpooled m hm off := by
    have none := h.unpooled m hm off
    refine ⟨none, fun ρ x r => ?_⟩
    have apart := m.facade.perform_apart x u.world r
    rw [show m.facade.context.pool = Option.none from none] at apart
    exact apart.pools_eq
  unpooled_request key c off := by
    have served := u.registry.newFacade_cases key c u.world
    rw [Hub.step]
    generalize u.registry.newFacade key c u.world = made at served ⊢
    obtain ⟨result, w⟩ := made
    cases result with
    | error why =>
      obtain ⟨e, -, refused⟩ := served
      cases refused <;> exact ⟨rfl, rfl⟩
    | ok made =>
      obtain ⟨facade, registry⟩ := made
      obtain ⟨f, pool, -, -, served⟩ := served
      dsimp only
      cases served with
      | unpooled => exact ⟨rfl, rfl⟩
      | shared on => exact absurd (off.symm.trans on) Bool.noConfusion
      | opened on => exact absurd (off.symm.trans on) Bool.noConfusion
  fails_iff key c apart := by
    have served := u.registry.newFacade_cases key c u.world
    generalize u.registry.newFacade key c u.world = made at served ⊢
    obtain ⟨result, w⟩ := made
    cases result with
    | error why =>
      obtain ⟨e, -, refused⟩ := served
      refine iff_of_true ⟨why, rfl⟩ ?_
      cases refused with
      | unregistered missing => exact .inl missing
      | invalid found on missing bad => exact .inr ⟨on, e, bad⟩
    | ok made =>
      obtain ⟨f, pool, found, -, served⟩ := served
      refine iff_of_false (fun ⟨why, failed⟩ => nomatch failed) ?_
      rintro (missing | ⟨on, e, bad⟩)
      · rw [found] at missing
        cases missing
      · obtain ⟨id, -, hid⟩ := served.listed on
        have valid : c.pool.validate = .ok () := by
          rcases served.asked hid with hid | ⟨-, -, valid⟩
          · obtain ⟨m, hm, on', now, key, valid⟩ := h.asked _ hid
            have text : m.configuration.sharingKey = c.sharingKey :=
              congrArg PoolKey.configuration key
            have same := Configuration.sharingKey_inj (apart m (mem_current.mpr ⟨hm, on', now⟩)) text
            exact same ▸ valid
          · exact valid
        rw [valid] at bad
        cases bad
  failed key c why failed := by
    have served := u.registry.newFacade_cases key c u.world
    rw [Hub.step]
    generalize u.registry.newFacade key c u.world = made at served failed ⊢
    obtain ⟨result, w⟩ := made
    obtain rfl : result = .error why := failed
    obtain ⟨e, -, refused⟩ := served
    cases refused <;> exact ⟨rfl, rfl, rfl⟩

/-- Whatever happens from the start on, pools are shared exactly between equal configurations of one
connector. -/
theorem shares_of_run (reserved : ReservedNames) (site : Site σ κ) (moves : List (Move σ κ ρ))
    (legible : ((start reserved site).run moves).Legible) :
    ((start reserved site).run moves).Shares :=
  ((start_mapped reserved site).run moves).shares legible

open Pool (quietScript quietSite singleSettings)

def halfRate : Binary64 := ⟨0x3FE0000000000000⟩

def quarterRate : Binary64 := ⟨0x3FD0000000000000⟩

def ratedConfiguration (rate : Binary64) : Configuration where
  properties := [("rate", .real rate)]
  poolingEnabled := true
  pool := singleSettings

/-- Two facades of one configuration, one of another, one without a pool, and two requests that
fail. -/
def ratedMoves : List (Move Resources Filter Unit) :=
  [.register (quietScript.factory 0), .newFacade quietScript.key (ratedConfiguration halfRate),
    .newFacade quietScript.key (ratedConfiguration halfRate),
    .newFacade quietScript.key (ratedConfiguration quarterRate), .newFacade quietScript.key {},
    .newFacade quietScript.key { ratedConfiguration halfRate with pool := { maxObjects := 0 } },
    .newFacade ⟨"other", "1", "Other"⟩ {}]

def ratedHub : Hub Resources Filter := (start .standard quietSite).run ratedMoves

theorem legible_of_configurations {cs : List Configuration} (asked : u.made.map Made.configuration = cs)
    (apart : ∀ c ∈ cs, ∀ d ∈ cs, ToldApart c.reals d.reals) : u.Legible :=
  fun _ hm _ hm' _ _ => apart _ (asked ▸ List.mem_map_of_mem hm) _ (asked ▸ List.mem_map_of_mem hm')

theorem ratedHub_shares :
    ratedHub.Legible ∧ ratedHub.Shares ∧
      ratedHub.made.map Made.pool = [some 0, some 0, some 1, none] ∧
      ratedHub.registry.poolCount = 2 := by
  have asked : ratedHub.made.map Made.configuration = [ratedConfiguration halfRate,
      ratedConfiguration halfRate, ratedConfiguration quarterRate, {}] := by decide +kernel
  have legible : ratedHub.Legible := legible_of_configurations asked (by decide +kernel)
  exact ⟨legible, shares_of_run .standard quietSite ratedMoves legible, by decide +kernel,
    by decide +kernel⟩

end Hub

end ConnectorHub
