import ConnectorHub.Proofs.Hub.Trade

namespace ConnectorHub

open ConnectorHub.Action
open Pool (ids)

variable {σ κ ρ α : Type}

theorem count_flatMap_set (f : α → List Nat) (id : Nat) {l : List α} {n : Nat} {a : α} (b : α)
    (h : l[n]? = some a) :
    ((l.set n b).flatMap f).count id + (f a).count id =
      (l.flatMap f).count id + (f b).count id := by
  induction l generalizing n with
  | nil => cases h
  | cons c rest ih =>
    cases n with
    | zero =>
      obtain rfl : c = a := Option.some.inj h
      simp only [List.set_cons_zero, List.flatMap_cons, List.count_append]
      omega
    | succ n =>
      have rest := ih h
      simp only [List.set_cons_succ, List.flatMap_cons, List.count_append]
      omega

namespace World

variable {w w' : World σ κ} {pool : Option Nat} {before after lost : List Nat}

/-- All that are idle. -/
def idleIds (w : World σ κ) : List Nat := w.pools.flatMap fun p => ids p.idle

theorem mem_idleIds {id : Nat} : id ∈ w.idleIds ↔ ∃ n, id ∈ w.idleAt (some n) := by
  rw [idleIds, List.mem_flatMap]
  constructor
  · rintro ⟨p, hp, hid⟩
    obtain ⟨n, hn⟩ := List.getElem?_of_mem hp
    exact ⟨n, idleAt_of_getElem? hn ▸ hid⟩
  · rintro ⟨n, hid⟩
    cases hp : w.pools[n]? with
    | none =>
      rw [idleAt, Option.bind_some, hp] at hid
      exact absurd hid List.not_mem_nil
    | some p => exact ⟨p, List.mem_of_getElem? hp, idleAt_of_getElem? hp ▸ hid⟩

/-- What is idle elsewhere stays so. -/
theorem Apart.total (h : w.Apart pool w') (id : Nat) :
    w'.idleIds.count id + (w.idleAt pool).count id =
      w.idleIds.count id + (w'.idleAt pool).count id := by
  cases pool with
  | none => rw [idleIds, idleIds, h.pools_eq, idleAt_of_pools_eq h.pools_eq]
  | some n =>
    cases hp : w.pools[n]? with
    | none =>
      have hn := List.getElem?_eq_none_iff.mp hp
      have same : w'.pools = w.pools := by
        apply List.ext_getElem?
        intro k
        by_cases hk : k = n
        · rw [hk, hp, List.getElem?_eq_none (h.length.symm ▸ hn)]
        · exact h.others fun e => hk (Option.some.inj e)
      rw [idleIds, idleIds, same, idleAt_of_pools_eq same]
    | some p =>
      have hn := (List.getElem?_eq_some_iff.mp hp).1
      obtain ⟨p', hp'⟩ : ∃ p', w'.pools[n]? = some p' :=
        ⟨_, List.getElem?_eq_getElem (h.length.symm ▸ hn)⟩
      have put : w'.pools = w.pools.set n p' := by
        apply List.ext_getElem?
        intro k
        by_cases hk : n = k
        · rw [← hk, hp', List.getElem?_set_self hn]
        · rw [List.getElem?_set_ne hk]
          exact h.others fun e => hk (Option.some.inj e).symm
      rw [idleAt_of_getElem? hp, idleAt_of_getElem? hp', idleIds, idleIds, put]
      exact count_flatMap_set _ id p' hp

theorem Exchange.total (h : w.Exchange pool w' before after lost) (id : Nat) :
    w.idleIds.count id + before.count id + Entry.constructions id (w.news w') =
      w'.idleIds.count id + after.count id + Entry.disposals id (w.news w') + lost.count id := by
  have apart := h.apart.total id
  have balance := h.balance id
  omega

end World

namespace Hub

variable {u v : Hub σ κ} {pool : Option Nat} {before after lost lost' : List Nat} {first : Nat}

/-- The books of a hub whose instances are numbered from `first` on. -/
structure Ledger (first : Nat) (lost : List Nat) (u : Hub σ κ) : Prop where
  numbered : u.world.site.Numbered first
  origins : u.origin.map Prod.fst = u.world.site.journal.filterMap Entry.built?
  stocked {n id : Nat} : id ∈ u.world.idleAt (some n) → (id, some n) ∈ u.origin
  lent : ∀ l ∈ u.held, (l.member.id, l.pool) ∈ u.origin
  placed : ∀ o ∈ u.origin, ∀ n, o.2 = some n → n < u.world.pools.length
  waits : ∀ b ∈ u.waiting, b.pool < u.world.pools.length
  balance (id : Nat) : u.world.idleIds.count id + u.outIds.count id +
      Entry.disposals id u.world.site.journal + lost.count id =
    Entry.constructions id u.world.site.journal
  whole : u.cut = false → lost = []

theorem start_ledger (reserved : ReservedNames) (site : Site σ κ) :
    Ledger site.built [] (start reserved site) where
  numbered := ⟨Nat.le_refl _, fun _ => (if_neg fun hid => Nat.not_lt.mpr hid.1 hid.2).symm⟩
  origins := rfl
  stocked hid := absurd hid List.not_mem_nil
  lent _ hl := nomatch hl
  placed _ ho := nomatch ho
  waits _ hb := nomatch hb
  balance _ := rfl
  whole _ := rfl

namespace Ledger

theorem trade (h : Ledger first lost u) (t : u.Trade v pool before after lost') :
    Ledger first (lost' ++ lost) v := by
  have new {id : Nat} (hid : id ∈ (u.world.news v.world).filterMap Entry.built?) :
      (id, pool) ∈ v.origin := by
    rw [t.origin]
    exact List.mem_append_right _ (List.mem_map_of_mem hid)
  have old {o : Nat × Option Nat} (ho : o ∈ u.origin) : o ∈ v.origin := by
    rw [t.origin]
    exact List.mem_append_left _ ho
  have length := t.exchange.apart.length
  -- What the pool keeps or lends afterwards was its own before, or is new.
  have own {id : Nat} (hid : id ∈ v.world.idleAt pool ∨ id ∈ after)
      (stocked : id ∈ u.world.idleAt pool → (id, pool) ∈ u.origin) : (id, pool) ∈ v.origin := by
    rcases t.exchange.provenance hid with hid | hid | hid
    · exact old (stocked hid)
    · obtain ⟨l, hl, rfl, rfl⟩ := t.returned id hid
      exact old (h.lent l hl)
    · exact new hid
  refine {
    numbered := t.numbered h.numbered
    origins := ?_
    stocked := fun {n id} hid => ?_
    lent := fun l hl => ?_
    placed := fun o ho n hn => ?_
    waits := fun b hb => ?_
    balance := fun id => ?_
    whole := fun cut => ?_ }
  · rw [t.origin, List.map_append, h.origins, t.exchange.written, List.filterMap_append, List.map_map]
    exact congrArg _ (List.map_id _)
  · by_cases here : some n = pool
    · rw [here] at hid ⊢
      exact own (.inl hid) fun hid => here ▸ h.stocked (here ▸ hid)
    · refine old (h.stocked ?_)
      rw [World.idleAt, Option.bind_some] at hid ⊢
      rwa [t.exchange.apart.others here] at hid
  · rcases t.lent l hl with hl | ⟨hid, its⟩
    · exact old (h.lent l hl)
    · rw [its]
      refine own (.inr hid) fun hid => ?_
      cases pool with
      | none => exact absurd hid List.not_mem_nil
      | some n => exact h.stocked hid
  · rw [length]
    rw [t.origin] at ho
    rcases List.mem_append.mp ho with ho | ho
    · exact h.placed o ho n hn
    · obtain ⟨id, -, rfl⟩ := List.mem_map.mp ho
      exact t.there hn
  · rw [length]
    rcases t.waits b hb with hb | here
    · exact h.waits b hb
    · exact t.there here.symm
  · have total := t.exchange.total id
    have counts := t.counts id
    have balance := h.balance id
    rw [t.exchange.written, Entry.constructions_append, Entry.disposals_append, List.count_append]
    omega
  · obtain ⟨before, none⟩ := t.whole cut
    rw [none, h.whole before, List.append_nil]

theorem trades (h : Ledger first lost u) (t : u.Trades v) : ∃ lost, Ledger first lost v := by
  obtain ⟨pool, before, after, lost', t⟩ := t
  exact ⟨_, h.trade t⟩

/-- A new pool keeps no instances. -/
theorem opened (h : Ledger first lost u) {p : Pool σ κ} (empty : p.idle = [])
    (world : v.world.site = u.world.site ∧ v.world.pools = u.world.pools ++ [p])
    (origin : v.origin = u.origin) (held : v.held = u.held) (waiting : v.waiting = u.waiting)
    (cut : v.cut = u.cut) : Ledger first lost v := by
  obtain ⟨site, pools⟩ := world
  have longer : u.world.pools.length ≤ v.world.pools.length := by
    rw [pools, List.length_append]
    exact Nat.le_add_right _ _
  have idle : v.world.idleIds = u.world.idleIds := by
    rw [World.idleIds, World.idleIds, pools, List.flatMap_append, List.flatMap_singleton, empty]
    exact List.append_nil _
  refine {
    numbered := site ▸ h.numbered
    origins := by rw [origin, site, h.origins]
    stocked := fun {n id} hid => ?_
    lent := by rw [held, origin]; exact h.lent
    placed := fun o ho n hn => Nat.lt_of_lt_of_le (h.placed o (origin ▸ ho) n hn) longer
    waits := fun b hb => Nat.lt_of_lt_of_le (h.waits b (waiting ▸ hb)) longer
    balance := fun id => by rw [idle, outIds, held, site]; exact h.balance id
    whole := fun hv => h.whole (cut.symm.trans hv) }
  rw [origin]
  rw [World.idleAt, Option.bind_some, pools] at hid
  rcases Nat.lt_or_ge n u.world.pools.length with old | new
  · rw [List.getElem?_append_left old] at hid
    exact h.stocked hid
  · rw [List.getElem?_append_right new] at hid
    cases hn : n - u.world.pools.length with
    | zero =>
      rw [hn, List.getElem?_cons_zero, Option.map_some, empty] at hid
      exact absurd hid List.not_mem_nil
    | succ k =>
      rw [hn] at hid
      exact absurd hid List.not_mem_nil

theorem made (h : Ledger first lost u) {f : Factory σ κ} {c : Configuration}
    {registry : Registry σ κ} {w : World σ κ} (served : u.registry.Serves u.world f c pool registry w)
    (m : Made σ κ) :
    ∃ lost, Ledger first lost { u with world := w, registry := registry, made := u.made ++ [m] } := by
  have still {registry : Registry σ κ} : ∃ lost, Ledger first lost
      { u with world := u.world.facadeMade, registry := registry, made := u.made ++ [m] } :=
    h.trades (trades_of_quiet rfl (List.append_nil _).symm (fun _ he => nomatch he) (fun _ => id) rfl
      rfl rfl rfl)
  cases served with
  | unpooled => exact still
  | shared => exact still
  | @opened on missing p new =>
    have kinds : ∀ e ∈ [(.noted (.creatingPool f.key) : Entry κ)], e.Quiet :=
      fun e he => List.mem_singleton.mp he ▸ Entry.quiet_noted _
    obtain ⟨lost, noted⟩ := h.trades (v := { u with world := u.world.noted (.creatingPool f.key) })
      (trades_of_quiet rfl rfl kinds
        (fun first => (Site.numbered_perennial first).write (e := .noted (.creatingPool f.key)) rfl)
        rfl rfl rfl rfl)
    have empty : p.idle = [] := by rw [(Pool.new_ok new).2]
    exact ⟨lost, noted.opened empty ⟨rfl, rfl⟩ rfl rfl rfl rfl⟩

/-- To close a pool is a move at that pool. -/
theorem closePools (h : Ledger first lost u) {result : Except Stop Unit} {w : World σ κ}
    (run : u.registry.closePools u.world = (result, w)) :
    ∃ lost, Ledger first lost (u.during w (u.cut || Pool.cutBy result)) := by
  have closes (e : PoolKey × Nat) :
      Triple (fun w => ∃ lost, Ledger first lost (u.during w u.cut)) (Registry.closing e)
        (fun _ w => ∃ lost, Ledger first lost (u.during w u.cut))
        fun why w => ∃ lost, Ledger first lost (u.during w (u.cut || why.abrupt)) := by
    apply Triple.bind (Q := fun _ w => ∃ lost, Ledger first lost (u.during w u.cut))
    · rintro w ⟨lost, books⟩
      have kinds : ∀ e' ∈ [(.noted (.closingPool e.1.connector) : Entry κ)], e'.Quiet :=
        fun e he => List.mem_singleton.mp he ▸ Entry.quiet_noted _
      exact books.trades (trades_of_quiet rfl rfl kinds
        (fun first => (Site.numbered_perennial first).toLasting.noted _ w) rfl rfl rfl rfl)
    · rintro - w ⟨lost, books⟩
      cases there : w.pools[e.2]? with
      | none =>
        rw [World.onPool, there]
        show ∃ lost, Ledger first lost (u.during w (u.cut || false))
        rw [Bool.or_false]
        exact ⟨lost, books⟩
      | some p =>
        cases run : World.onPool e.2 Pool.close w with
        | mk result w' =>
          have after := books.trades (u.close_trades (List.getElem?_eq_some_iff.mp there).1 run)
          cases result with
          | ok done =>
            rw [Pool.cutBy, Bool.or_false] at after
            exact after
          | error why => exact after
  have swept := Triple.forEach (fun e (_ : e ∈ u.registry.pools) => closes e) u.world ⟨lost, h⟩
  rw [Registry.closePools_eq] at run
  rw [run] at swept
  cases result with
  | ok done =>
    rw [Pool.cutBy, Bool.or_false]
    exact swept
  | error why => exact swept

/-- The ledger depends on nothing else of the hub. -/
theorem same (h : Ledger first lost u) (world : v.world = u.world) (origin : v.origin = u.origin)
    (held : v.held = u.held) (waiting : v.waiting = u.waiting) (cut : v.cut = u.cut) :
    Ledger first lost v := by
  obtain ⟨⟩ := u
  obtain ⟨⟩ := v
  cases world
  cases origin
  cases held
  cases waiting
  cases cut
  exact { h with }

theorem moved (h : Ledger first lost u) (mapped : u.Mapped) (m : Move σ κ ρ) :
    u.Moved (u.step m) := by
  have idle : u.Trades u :=
    trades_of_quiet rfl (List.append_nil _).symm (fun _ he => nomatch he) (fun _ => id) rfl rfl rfl rfl
  have there {n : Nat} {made : Made σ κ} (hm : u.made[n]? = some made) :
      ∀ k, made.facade.context.pool = some k → k < u.world.pools.length :=
    fun k uses => (mapped.uses (List.mem_of_getElem? hm) uses).2
  cases m with
  | register f =>
    have kinds : ∀ e ∈ [(.noted (.registering f.key) : Entry κ)], e.Quiet :=
      fun e he => List.mem_singleton.mp he ▸ Entry.quiet_noted _
    exact .trades (trades_of_quiet rfl rfl kinds
      (fun first => (Site.numbered_perennial first).toLasting.noted _ u.world) rfl rfl rfl rfl)
  | newFacade key c =>
    have served := u.registry.newFacade_cases key c u.world
    rw [Hub.step]
    generalize u.registry.newFacade key c u.world = made at served ⊢
    obtain ⟨result, w⟩ := made
    cases result with
    | ok made =>
      obtain ⟨f, pool, -, -, served⟩ := served
      exact .made served _
    | error why =>
      obtain ⟨e, -, refused⟩ := served
      cases refused with
      | unregistered missing => exact .trades idle
      | invalid found on missing bad =>
        have kinds : ∀ e ∈ [(.noted (.creatingPool key) : Entry κ)], e.Quiet :=
          fun e he => List.mem_singleton.mp he ▸ Entry.quiet_noted _
        exact .trades (trades_of_quiet rfl rfl kinds
          (fun first => (Site.numbered_perennial first).toLasting.noted _ u.world) rfl rfl rfl rfl)
  | disposeAll =>
    rw [Hub.step]
    cases run : u.registry.closePools u.world with
    | mk result w => exact .swept run
  | call n x caller =>
    rw [Hub.step]
    split
    · next made hm => exact .trades (u.call_trades made.facade x caller (there hm))
    · exact .trades idle
  | hold n =>
    rw [Hub.step]
    split
    · next made hm => exact .trades (u.hold_trades made.facade.context (there hm))
    · exact .trades idle
  | release n =>
    rw [Hub.step]
    split
    · next l hl =>
      exact .trades (u.release_trades hl fun k its =>
        h.placed _ (h.lent l (List.mem_of_getElem? hl)) k its)
    · exact .trades idle
  | begin n =>
    rw [Hub.step]
    split
    · next made hm =>
      split
      · next pool uses =>
        exact .trades (u.progress_trades _ (there hm pool uses) (fun a => Pool.begin_custody)
          (fun I lasts => lasts.begin) Pool.begin_shut)
      · exact .trades idle
    · exact .trades idle
  | resume n =>
    exact .trades (u.goOn_trades n h.waits (fun a => Pool.resume_custody)
      (fun I lasts => lasts.resume) fun w => Pool.goOn_shut (Pool.resume_shut w))
  | expire n =>
    exact .trades (u.goOn_trades n h.waits (fun a => Pool.expire_custody _)
      (fun I lasts => lasts.toLasting.expire _)
      fun w => Pool.goOn_shut (Pool.expire_shut _ w))
  | wait ms =>
    exact .trades (trades_of_quiet rfl (List.append_nil _).symm (fun _ he => nomatch he)
      (fun _ numbered => ⟨numbered.first_le, numbered.constructed⟩) rfl rfl rfl rfl)
  | turn resource =>
    exact .trades (trades_of_quiet rfl (List.append_nil _).symm (fun _ he => nomatch he)
      (fun _ numbered => ⟨numbered.first_le, numbered.constructed⟩) rfl rfl rfl rfl)

theorem step (h : Ledger first lost u) (mapped : u.Mapped) (m : Move σ κ ρ) :
    ∃ lost, Ledger first lost (u.step m) := by
  have moved := h.moved mapped m
  generalize u.step m = v at moved ⊢
  cases moved with
  | trades t => exact h.trades t
  | made served m => exact h.made served m
  | swept run =>
    obtain ⟨lost, books⟩ := h.closePools run
    exact ⟨lost, books.same rfl rfl rfl rfl rfl⟩

/-- A closed pool stays closed, and keeps nothing. -/
theorem shut (h : Ledger first lost u) (mapped : u.Mapped) (m : Move σ κ ρ) {n : Nat}
    (shut : u.world.AtPool n (Pool.Shut 0)) : (u.step m).world.AtPool n (Pool.Shut 0) := by
  have moved := h.moved mapped m
  generalize u.step m = v at moved ⊢
  cases moved with
  | trades t =>
    obtain ⟨pool, before, after, lost, t⟩ := t
    exact t.keeps_shut shut
  | made served m => exact served.keeps_shut shut
  | swept run =>
    have kept := u.registry.closePools_keeps_shut n u.world shut
    rw [run] at kept
    exact kept

theorem origin_subset (h : Ledger first lost u) (mapped : u.Mapped) (m : Move σ κ ρ) :
    u.origin ⊆ (u.step m).origin := by
  have moved := h.moved mapped m
  generalize u.step m = v at moved ⊢
  cases moved with
  | trades t =>
    obtain ⟨pool, before, after, lost, t⟩ := t
    exact t.origin ▸ List.subset_append_left _ _
  | made served m => exact List.Subset.refl _
  | swept run => exact List.Subset.refl _

theorem run (h : Ledger first lost u) (mapped : u.Mapped) (moves : List (Move σ κ ρ)) :
    ∃ lost, Ledger first lost (u.run moves) := by
  induction moves generalizing u lost with
  | nil => exact ⟨lost, h⟩
  | cons m moves ih =>
    obtain ⟨lost, next⟩ := h.step mapped m
    exact ih next (mapped.step m)

end Ledger

end Hub

end ConnectorHub
