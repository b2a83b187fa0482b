import ConnectorHub.Proofs.Hub.Exchange
import ConnectorHub.Proofs.Hub.Sharing

namespace ConnectorHub

open ConnectorHub.Action

variable {σ κ ρ α : Type}

/-- Each number from `first` on is that of one instance, up to those not yet constructed. -/
structure Site.Numbered (first : Nat) (s : Site σ κ) : Prop where
  first_le : first ≤ s.built
  constructed (id : Nat) :
    Entry.constructions id s.journal = if first ≤ id ∧ id < s.built then 1 else 0

theorem Entry.constructions_of_built? {e : Entry κ} (he : e.built? = none) (id : Nat) :
    constructions id [e] = 0 := by
  simp [constructions, he]

theorem Site.numbered_perennial (first : Nat) :
    Site.Perennial (Site.Numbered (σ := σ) (κ := κ) first) where
  write he hs := by
    refine ⟨hs.first_le, fun id => ?_⟩
    rw [Entry.constructions_append, Entry.constructions_of_built? he]
    exact hs.constructed id
  change _ _ hs := ⟨hs.first_le, hs.constructed⟩
  construct maker hs := by
    refine ⟨Nat.le_succ_of_le hs.first_le, fun id => ?_⟩
    have first_le := hs.first_le
    have constructed := hs.constructed id
    rw [Entry.constructions_append, Entry.constructions_built, constructed]
    grind

/-- Nothing has been constructed since. -/
theorem Site.unbuilt_lasting (before : List (Entry κ)) :
    Site.Lasting (Site.Grown (σ := σ) (fun e => e.built? = none) before) where
  write he hs := hs.write he
  change _ _ hs := hs

/-- A call leaves a closed pool as it is. -/
theorem Context.Course.shut {c : Context σ κ} {w w' : World σ κ} {result : Except Stop α} {n : Nat}
    (h : c.Course w w' result) (hc : c.pool = some n) (shut : World.AtPool n (Pool.Shut 0) w) :
    World.AtPool n (Pool.Shut 0) w' := by
  have acquired := Lease.acquire_keeps Pool.notes_shut hc Pool.borrow_shut w shut
  cases h with
  | refused e told same =>
    rw [same]
    exact shut
  | unacquired why entries failed =>
    rw [failed] at acquired
    exact acquired
  | served l w₁ w₂ entries work closing leased taken upkeep worked still ofMember released =>
    rw [leased] at acquired
    obtain ⟨p, hp, held⟩ := acquired
    have pool : l.pool = c.pool := (Lease.acquire_pool c).ok trivial leased
    rw [← released]
    exact Lease.release_keeps Pool.notes_shut (pool.trans hc) (Pool.giveBack_shut l.member) w₂
      ⟨p, still ▸ hp, held.closed, held.empty, Nat.zero_le _⟩

namespace Registry

variable {r r' : Registry σ κ} {w w' : World σ κ} {f : Factory σ κ} {c : Configuration}
  {pool : Option Nat} {n : Nat}

theorem Serves.keeps_shut (h : r.Serves w f c pool r' w') (shut : w.AtPool n (Pool.Shut 0)) :
    w'.AtPool n (Pool.Shut 0) := by
  obtain ⟨p, hp, held⟩ := shut
  cases h with
  | unpooled => exact ⟨p, hp, held⟩
  | shared => exact ⟨p, hp, held⟩
  | opened =>
    have hn := (List.getElem?_eq_some_iff.mp hp).1
    exact ⟨p, (List.getElem?_append_left hn).trans hp, held.closed, held.empty, Nat.zero_le _⟩

theorem closing_keeps_shut (e : PoolKey × Nat) (n : Nat) :
    Keeps (World.AtPool (σ := σ) (κ := κ) n (Pool.Shut 0)) (closing e) := by
  refine (World.keeps_note Pool.notes_shut _).bind fun _ w shut => ?_
  by_cases here : n = e.2
  · rw [← here]
    exact World.keeps_onPool (fun s _ => (Pool.close_shut s).mono (Nat.zero_le _)) w shut
  · obtain ⟨p, hp, held⟩ := shut
    have apart := World.onPool_apart e.2 (fun f => (Pool.factory_lasting f).close) w
    have still := apart.others fun same => here (Option.some.inj same)
    exact ⟨p, still.trans hp, held.closed, held.empty, Nat.zero_le _⟩

theorem closePools_keeps_shut (r : Registry σ κ) (n : Nat) :
    Keeps (World.AtPool n (Pool.Shut 0)) r.closePools :=
  Keeps.forEach (fun e => closing_keeps_shut e n) r.pools

end Registry

namespace Hub

variable {u v : Hub σ κ} {pool : Option Nat} {before after lost : List Nat}

/-- The instances that are held. -/
def outIds (u : Hub σ κ) : List Nat := u.held.map (·.member.id)

/-- A move at one pool by which `before` were given back, `after` were lent, and `lost` are nowhere.
-/
structure Trade (u v : Hub σ κ) (pool : Option Nat) (before after lost : List Nat) : Prop where
  exchange : u.world.Exchange pool v.world before after lost
  numbered {first : Nat} : u.world.site.Numbered first → v.world.site.Numbered first
  there {n : Nat} : pool = some n → n < u.world.pools.length
  origin : v.origin = u.origin ++
    ((u.world.news v.world).filterMap Entry.built?).map fun id => (id, pool)
  counts (id : Nat) : v.outIds.count id + before.count id = u.outIds.count id + after.count id
  returned : ∀ id ∈ before, ∃ l ∈ u.held, l.member.id = id ∧ l.pool = pool
  lent : ∀ l ∈ v.held, l ∈ u.held ∨ l.member.id ∈ after ∧ l.pool = pool
  waits : ∀ b ∈ v.waiting, b ∈ u.waiting ∨ some b.pool = pool
  whole : v.cut = false → u.cut = false ∧ lost = []
  shut {n : Nat} : pool = some n → u.world.AtPool n (Pool.Shut 0) → v.world.AtPool n (Pool.Shut 0)

namespace Trade

/-- Nothing is lent or given back. -/
theorem plain (exchange : u.world.Exchange pool v.world [] [] lost)
    (numbered : ∀ first, u.world.site.Numbered first → v.world.site.Numbered first)
    (there : ∀ n, pool = some n → n < u.world.pools.length)
    (origin : v.origin = u.origin ++
      ((u.world.news v.world).filterMap Entry.built?).map fun id => (id, pool))
    (held : v.held = u.held) (waits : ∀ b ∈ v.waiting, b ∈ u.waiting ∨ some b.pool = pool)
    (whole : v.cut = false → u.cut = false ∧ lost = [])
    (shut : ∀ n, pool = some n → u.world.AtPool n (Pool.Shut 0) → v.world.AtPool n (Pool.Shut 0)) :
    u.Trade v pool [] [] lost where
  exchange := exchange
  numbered := numbered _
  there := there _
  origin := origin
  counts id := by rw [outIds, outIds, held]
  returned _ hid := nomatch hid
  lent _ hl := .inl (held ▸ hl)
  waits := waits
  whole := whole
  shut := shut _

theorem lending {l : Lease σ κ} (exchange : u.world.Exchange pool v.world [] [l.member.id] [])
    (numbered : ∀ first, u.world.site.Numbered first → v.world.site.Numbered first)
    (there : ∀ n, pool = some n → n < u.world.pools.length)
    (origin : v.origin = u.origin ++
      ((u.world.news v.world).filterMap Entry.built?).map fun id => (id, pool))
    (held : v.held = l :: u.held) (its : l.pool = pool) (waiting : v.waiting = u.waiting)
    (cut : v.cut = u.cut)
    (shut : ∀ n, pool = some n → u.world.AtPool n (Pool.Shut 0) → v.world.AtPool n (Pool.Shut 0)) :
    u.Trade v pool [] [l.member.id] [] where
  exchange := exchange
  numbered := numbered _
  there := there _
  origin := origin
  counts id := by
    rw [outIds, outIds, held, List.map_cons, ← List.singleton_append, List.count_append,
      List.count_nil, Nat.add_zero, Nat.add_comm]
  returned _ hid := nomatch hid
  lent l' hl := by
    rw [held] at hl
    rcases List.mem_cons.mp hl with rfl | hl
    · exact .inr ⟨List.mem_singleton_self _, its⟩
    · exact .inl hl
  waits _ hb := .inl (waiting ▸ hb)
  whole h := ⟨cut.symm.trans h, rfl⟩
  shut := shut _

theorem of_waiting {waiting : List Borrower}
    (t : Trade { u with waiting := waiting } v pool before after lost)
    (fewer : ∀ b ∈ waiting, b ∈ u.waiting) : u.Trade v pool before after lost :=
  { t with waits := fun b hb => (t.waits b hb).imp_left (fewer b) }

end Trade

theorem Trade.keeps_shut (t : u.Trade v pool before after lost) {n : Nat}
    (h : u.world.AtPool n (Pool.Shut 0)) : v.world.AtPool n (Pool.Shut 0) := by
  by_cases here : some n = pool
  · exact t.shut here.symm h
  · obtain ⟨p, hp, shut⟩ := h
    exact ⟨p, (t.exchange.apart.others here).trans hp, shut.closed, shut.empty, Nat.zero_le _⟩

/-- Some instances change hands at one pool. -/
def Trades (u v : Hub σ κ) : Prop := ∃ pool before after lost, u.Trade v pool before after lost

theorem origin_of_unbuilt {w : World σ κ} (h : w.site.Grown (fun e => e.built? = none)
    u.world.site.journal) :
    u.origin = u.origin ++ ((u.world.news w).filterMap Entry.built?).map fun id => (id, pool) := by
  rw [List.filterMap_eq_nil_iff.mpr (World.written_of_grown h).2, List.map_nil, List.append_nil]

/-- A move that writes into the journal at most. -/
theorem trades_of_quiet {es : List (Entry κ)} (pools : v.world.pools = u.world.pools)
    (written : v.world.site.journal = u.world.site.journal ++ es) (kinds : ∀ e ∈ es, e.Quiet)
    (numbered : ∀ first, u.world.site.Numbered first → v.world.site.Numbered first)
    (origin : v.origin = u.origin) (held : v.held = u.held) (waiting : v.waiting = u.waiting)
    (cut : v.cut = u.cut) : u.Trades v := by
  have unbuilt : v.world.site.Grown (fun e => e.built? = none) u.world.site.journal :=
    ⟨es, written, fun e he => (kinds e he).1⟩
  refine ⟨none, [], [], [], .plain (.quiet pools written kinds []) numbered (fun _ h => nomatch h)
    (origin.trans (origin_of_unbuilt unbuilt)) held (fun b hb => .inl (waiting ▸ hb))
    (fun h => ⟨cut.symm.trans h, rfl⟩) fun _ h => nomatch h⟩

theorem progress_trades (u : Hub σ κ) (key : ConnectorKey) {n : Nat} (there : n < u.world.pools.length)
    {x : Action (Pool.At σ κ) (Pool.Progress σ κ)}
    (hx : ∀ a : Pool.Account, Triple (fun s => a.Of s) x (fun progress s => a.Met progress s)
      fun why s => a.After why s)
    (lasts : ∀ I, Pool.Perennial I → Keeps I x) (shuts : Keeps (Pool.Shut 0) x) :
    u.Trades (u.progress key n (World.onPool n x u.world)) := by
  have exchange := World.progress_exchange (List.getElem?_eq_getElem there) hx lasts
  have numbered (first : Nat) := World.keeps_site n
    (lasts _ (Site.numbered_perennial first).pool) u.world
  have exists_there : ∀ k, some n = some k → k < u.world.pools.length :=
    fun k same => Option.some.inj same ▸ there
  have shut : ∀ k, some n = some k → u.world.AtPool k (Pool.Shut 0) →
      (World.onPool n x u.world).2.AtPool k (Pool.Shut 0) := by
    rintro k ⟨⟩ held
    exact World.keeps_onPool shuts u.world held
  generalize World.onPool n x u.world = ended at exchange numbered shut ⊢
  obtain ⟨result, w⟩ := ended
  cases result with
  | error why =>
    obtain ⟨lost, exchange, settled⟩ := exchange
    refine ⟨some n, [], [], lost,
      .plain exchange numbered exists_there rfl rfl (fun _ => .inl) ?_ shut⟩
    intro cut
    obtain ⟨before, now⟩ := Bool.or_eq_false_iff.mp cut
    exact ⟨before, settled now⟩
  | ok progress =>
    cases progress with
    | waiting w =>
      refine ⟨some n, [], [], [],
        .plain exchange numbered exists_there rfl rfl ?_ (fun cut => ⟨cut, rfl⟩) shut⟩
      intro b hb
      rcases List.mem_cons.mp hb with rfl | hb
      · exact .inr rfl
      · exact .inl hb
    | ended result =>
      cases result with
      | error e =>
        exact ⟨some n, [], [], [], .plain exchange numbered exists_there rfl rfl (fun _ => .inl)
          (fun cut => ⟨cut, rfl⟩) shut⟩
      | ok i =>
        exact ⟨some n, [], [i.id], [], .lending (l := ⟨i, key, some n⟩) exchange numbered
          exists_there rfl rfl rfl rfl rfl shut⟩

theorem goOn_trades (u : Hub σ κ) (n : Nat) (waits : ∀ b ∈ u.waiting, b.pool < u.world.pools.length)
    {x : Pool.Progress σ κ → Action (Pool.At σ κ) (Pool.Progress σ κ)}
    (hx : ∀ (a : Pool.Account) (w : Pool.Waiter), Triple (fun s => a.Of s) (x (.waiting w))
      (fun progress s => a.Met progress s) fun why s => a.After why s)
    (lasts : ∀ I, Pool.Perennial I → ∀ progress, Keeps I (x progress))
    (shuts : ∀ w, Keeps (Pool.Shut 0) (x (.waiting w))) : u.Trades (u.goOn n x) := by
  unfold goOn
  split
  · next b hb =>
    obtain ⟨pool, before, after, lost, trade⟩ :=
      progress_trades { u with waiting := u.waiting.eraseIdx n } b.key
        (waits b (List.mem_of_getElem? hb)) (fun a => hx a b.waiter)
        (fun I h => lasts I h (.waiting b.waiter)) (shuts b.waiter)
    exact ⟨pool, before, after, lost, trade.of_waiting fun _ => List.mem_of_mem_eraseIdx⟩
  · exact trades_of_quiet rfl (List.append_nil _).symm (fun _ he => nomatch he) (fun _ => id) rfl rfl rfl rfl

theorem call_trades (u : Hub σ κ) (f : Facade σ κ) (x : Request ρ) (caller : ρ)
    (there : ∀ n, f.context.pool = some n → n < u.world.pools.length) :
    u.Trades { u.reach f.context.pool (f.perform x (u.world, caller)).2.1 with
      cut := u.cut || Pool.cutBy (f.perform x (u.world, caller)).1 } := by
  obtain ⟨lost, exchange, settled⟩ := (f.perform_course x u.world caller).exchange
  refine ⟨f.context.pool, [], [], lost, .plain exchange ?_ there rfl rfl (fun _ => .inl) ?_ ?_⟩
  · exact fun first h => (Site.numbered_perennial first).perform f x (u.world, caller) h
  · intro cut
    obtain ⟨before, now⟩ := Bool.or_eq_false_iff.mp cut
    exact ⟨before, settled now⟩
  · exact fun n => (f.perform_course x u.world caller).shut

theorem hold_trades (u : Hub σ κ) (c : Context σ κ)
    (there : ∀ n, c.pool = some n → n < u.world.pools.length) :
    u.Trades (match Lease.acquire c u.world with
      | (.ok l, w) => { u.reach c.pool w with held := l :: u.held }
      | (.error why, w) => { u.reach c.pool w with cut := u.cut || why.abrupt }) := by
  have exchange := Lease.acquire_exchange c u.world
  have numbered (first : Nat) := (Site.numbered_perennial first).acquire c u.world
  have shut : ∀ n, c.pool = some n → u.world.AtPool n (Pool.Shut 0) →
      (Lease.acquire c u.world).2.AtPool n (Pool.Shut 0) :=
    fun n uses => Lease.acquire_keeps Pool.notes_shut uses Pool.borrow_shut u.world
  cases run : Lease.acquire c u.world with
  | mk result w =>
    rw [run] at exchange numbered shut
    cases result with
    | ok l =>
      have pool : l.pool = c.pool := (Lease.acquire_pool c).ok trivial run
      exact ⟨_, _, _, _, .lending exchange numbered there rfl rfl pool rfl rfl shut⟩
    | error why =>
      obtain ⟨lost, exchange, settled⟩ := exchange
      refine ⟨_, [], [], lost,
        .plain exchange numbered there rfl rfl (fun _ => .inl) (fun cut => ?_) shut⟩
      obtain ⟨before, now⟩ := Bool.or_eq_false_iff.mp cut
      exact ⟨before, settled now⟩

theorem release_trades (u : Hub σ κ) {n : Nat} {l : Lease σ κ} (held : u.held[n]? = some l)
    (there : ∀ k, l.pool = some k → k < u.world.pools.length) :
    u.Trades { u with
      world := (l.release u.world).2
      held := u.held.eraseIdx n
      cut := u.cut || Pool.cutBy (l.release u.world).1 } := by
  have hl := List.mem_of_getElem? held
  have unbuilt := (Site.unbuilt_lasting u.world.site.journal).release l u.world u.world.site.grown_self
  obtain ⟨hn, rfl⟩ := List.getElem?_eq_some_iff.mp held
  have perm := List.getElem_cons_eraseIdx_perm hn
  refine ⟨u.held[n].pool, [u.held[n].member.id], [], [], {
    exchange := u.held[n].release_exchange u.world there
    numbered := (Site.numbered_perennial _).toLasting.release _ u.world
    there := there _
    origin := origin_of_unbuilt unbuilt
    counts := fun id => ?_
    returned := fun id hid => ⟨_, hl, (List.mem_singleton.mp hid).symm, rfl⟩
    lent := fun l hl => .inl (List.mem_of_mem_eraseIdx hl)
    waits := fun b hb => .inl hb
    whole := fun cut => ⟨(Bool.or_eq_false_iff.mp cut).1, rfl⟩
    shut := fun its => Lease.release_keeps Pool.notes_shut its (Pool.giveBack_shut _) u.world }⟩
  have counts := (perm.map fun l : Lease σ κ => l.member.id).count_eq id
  rw [List.map_cons, ← List.singleton_append, List.count_append] at counts
  show ((u.held.eraseIdx n).map (·.member.id)).count id + _ = (u.held.map (·.member.id)).count id + 0
  omega

/-- What a move does with the instances of a hub. -/
inductive Moved (u : Hub σ κ) : Hub σ κ → Prop where
  | trades {v : Hub σ κ} (h : u.Trades v) : Moved u v
  | made {f : Factory σ κ} {c : Configuration} {pool : Option Nat} {registry : Registry σ κ}
    {w : World σ κ} (served : u.registry.Serves u.world f c pool registry w) (m : Made σ κ) :
    Moved u { u with world := w, registry := registry, made := u.made ++ [m] }
  | swept {result : Except Stop Unit} {w : World σ κ}
    (run : u.registry.closePools u.world = (result, w)) :
    Moved u { u with
      world := w
      registry := u.registry.withoutPools
      era := u.era + 1
      cut := u.cut || Pool.cutBy result
      torn := u.torn || Pool.cutBy result }

/-- The hub in the middle of closing its pools. -/
def during (u : Hub σ κ) (w : World σ κ) (cut : Bool) : Hub σ κ := { u with world := w, cut := cut }

theorem close_trades (u : Hub σ κ) {w w' : World σ κ} {n : Nat} {result : Except Stop Unit}
    (there : n < w.pools.length) (run : World.onPool n Pool.close w = (result, w')) :
    (u.during w u.cut).Trades (u.during w' (u.cut || Pool.cutBy result)) := by
  have exchange := World.close_exchange (List.getElem?_eq_getElem there)
  have numbered (first : Nat) := World.keeps_site n
    (Site.numbered_perennial first).pool.toLasting.close w
  have unbuilt := World.keeps_site n
    (Site.unbuilt_lasting w.site.journal).pool.close w w.site.grown_self
  have shut : ∀ k, some n = some k → w.AtPool k (Pool.Shut 0) →
      (World.onPool n Pool.close w).2.AtPool k (Pool.Shut 0) := by
    rintro k ⟨⟩ held
    exact World.keeps_onPool (fun s _ => (Pool.close_shut s).mono (Nat.zero_le _)) w held
  rw [run] at exchange numbered unbuilt shut
  have exists_there : ∀ k, some n = some k → k < w.pools.length :=
    fun k same => Option.some.inj same ▸ there
  have origin : u.origin = u.origin ++
      ((w.news w').filterMap Entry.built?).map fun id => (id, some n) :=
    origin_of_unbuilt (u := u.during w u.cut) unbuilt
  cases result with
  | ok done =>
    exact ⟨some n, [], [], [], .plain exchange numbered exists_there origin rfl (fun _ => .inl)
      (fun cut => ⟨(Bool.or_false u.cut).symm.trans cut, rfl⟩) shut⟩
  | error why =>
    obtain ⟨lost, exchange, settled⟩ := exchange
    refine ⟨some n, [], [], lost,
      .plain exchange numbered exists_there origin rfl (fun _ => .inl) ?_ shut⟩
    intro cut
    obtain ⟨before, now⟩ := Bool.or_eq_false_iff.mp cut
    exact ⟨before, settled now⟩

end Hub

end ConnectorHub
