import ConnectorHub.Proofs.Hub.Ledger
import ConnectorHub.Proofs.Hub.Supply

namespace ConnectorHub

open ConnectorHub.Action
open Pool (ids)

variable {σ κ ρ : Type}

namespace Pool

theorem discard_abrupt (i : Instance σ κ) :
    Triple (fun _ => True) (discard i) (fun _ _ => True) fun why _ => why.abrupt = true := by
  refine (Triple.attempt_abrupt _).bind fun result => ?_
  cases result with
  | ok done => exact Triple.pure fun _ _ => trivial
  | error e => exact fun _ _ => trivial

/-- Only a disposal that is cut short keeps a pool from being closed. -/
theorem close_abrupt :
    Triple (fun _ => True) (close (σ := σ) (κ := κ)) (fun _ _ => True)
      fun why _ => why.abrupt = true := by
  refine Triple.bind (Q := fun _ _ => True) (fun _ _ => trivial) fun _ => ?_
  refine Triple.get_bind fun s _ => Triple.bind (Q := fun _ _ => True) (fun _ _ => trivial) fun _ => ?_
  exact Triple.forEach fun e _ => discard_abrupt e.member

end Pool

namespace Registry

variable {r r' : Registry σ κ} {w w' : World σ κ} {f : Factory σ κ} {c : Configuration}
  {pool : Option Nat} {n : Nat}

theorem Serves.covers (h : r.Serves w f c pool r' w') (hn : n < w'.pools.length) :
    n < w.pools.length ∨ ∃ e ∈ r'.pools, e.2 = n := by
  cases h with
  | unpooled => exact .inl hn
  | shared => exact .inl hn
  | opened =>
    rw [List.length_append, List.length_singleton] at hn
    rcases Nat.lt_succ_iff_lt_or_eq.mp hn with old | new
    · exact .inl old
    · exact .inr ⟨_, List.mem_append_right _ (List.mem_singleton_self _), new.symm⟩

theorem closing_shut (e : PoolKey × Nat) :
    Triple (fun w : World σ κ => e.2 < w.pools.length) (closing e)
      (fun _ => World.AtPool e.2 (Pool.Shut 0)) fun why _ => why.abrupt = true := by
  apply Triple.bind (Q := fun _ w => e.2 < w.pools.length)
  · exact fun w there => there
  · intro _ w there
    have hp := List.getElem?_eq_getElem there
    generalize w.pools[e.2] = p at hp
    have shut := (Pool.close_shut (w.site, p)).mono (Nat.zero_le _)
    have ended := Pool.close_abrupt (w.site, p) trivial
    rw [World.onPool, hp]
    dsimp only
    cases run : Pool.close (w.site, p) with
    | mk result t =>
      rw [run] at shut ended
      cases result with
      | ok done => exact ⟨t.2, List.getElem?_set_self there, shut⟩
      | error why => exact ended

/-- Unless it is cut short, the closing of the pools comes to all of them. -/
theorem closePools_shut (r : Registry σ κ) :
    Triple (fun w : World σ κ => ∀ e ∈ r.pools, e.2 < w.pools.length) r.closePools
      (fun _ w => ∀ e ∈ r.pools, w.AtPool e.2 (Pool.Shut 0)) fun why _ => why.abrupt = true := by
  rw [closePools_eq]
  induction r.pools with
  | nil => exact Triple.pure fun _ _ _ he => absurd he List.not_mem_nil
  | cons e rest ih =>
    refine Triple.bind (Q := fun _ w => w.AtPool e.2 (Pool.Shut 0) ∧
      ∀ e ∈ rest, e.2 < w.pools.length) ?_ fun _ => ?_
    · intro w there
      have first := closing_shut e w (there e List.mem_cons_self)
      have length := World.length_of_factories_eq (closing_factories e w w rfl)
      cases run : closing e w with
      | mk result w' =>
        rw [run] at first length
        cases result with
        | ok done => exact ⟨first, fun e he => length.symm ▸ there e (List.mem_cons_of_mem _ he)⟩
        | error why => exact first
    · intro w ⟨first, there⟩
      have others := ih w there
      have kept := Keeps.forEach (fun e' => closing_keeps_shut e' e.2) rest w first
      cases run : Action.forEach rest closing w with
      | mk result w' =>
        rw [run] at others kept
        cases result with
        | ok done => exact List.forall_mem_cons.mpr ⟨kept, others⟩
        | error why => exact others

end Registry

namespace Hub

variable {o u v : Hub σ κ} {first : Nat} {lost lost' : List Nat}

/-- The registry knows every pool that is not closed, unless a disposal of all pools was cut short. -/
def Tidy (u : Hub σ κ) : Prop :=
  u.torn = false → ∀ n < u.world.pools.length,
    (∃ e ∈ u.registry.pools, e.2 = n) ∨ u.world.AtPool n (Pool.Shut 0)

theorem start_tidy (reserved : ReservedNames) (site : Site σ κ) : (start reserved site).Tidy :=
  fun _ _ hn => absurd hn (Nat.not_lt_zero _)

/-- A disposal of all pools that is not cut short closes them all. -/
theorem Tidy.swept (h : u.Tidy) (mapped : u.Mapped)
    (torn : (u.torn || Pool.cutBy (u.registry.closePools u.world).1) = false) :
    ∀ n < u.world.pools.length, (u.registry.closePools u.world).2.AtPool n (Pool.Shut 0) := by
  obtain ⟨before, now⟩ := Bool.or_eq_false_iff.mp torn
  intro n hn
  have all := u.registry.closePools_shut u.world mapped.there
  have kept := u.registry.closePools_keeps_shut n u.world
  cases run : u.registry.closePools u.world with
  | mk result w =>
    rw [run] at all kept now
    cases result with
    | ok done =>
      rcases h before n hn with ⟨e, he, rfl⟩ | shut
      · exact all e he
      · exact kept shut
    | error why => exact absurd (all.symm.trans now) Bool.noConfusion

theorem Tidy.step (h : u.Tidy) (ledger : Ledger first lost u) (mapped : u.Mapped) (m : Move σ κ ρ) :
    (u.step m).Tidy := by
  have kept (n : Nat) := ledger.shut (n := n) mapped m
  have stepped := u.step_cases m
  generalize u.step m = v at kept stepped ⊢
  cases stepped with
  | still hv =>
    intro torn n hn
    rw [World.length_of_factories_eq hv.factories] at hn
    rw [hv.shared]
    exact (h (hv.torn.symm.trans torn) n hn).imp_right (kept n)
  | made found context served =>
    intro torn n hn
    rcases served.covers hn with old | known
    · refine (h torn n old).imp ?_ (kept n)
      exact fun ⟨e, he, its⟩ => ⟨e, served.subset he, its⟩
    · exact .inl known
  | swept made era forgotten world torn =>
    intro whole n hn
    rw [world] at hn ⊢
    rw [World.length_of_factories_eq (u.registry.closePools_factories u.world)] at hn
    exact .inr (h.swept mapped (torn.symm.trans whole) n hn)

theorem Tidy.run (h : u.Tidy) (ledger : Ledger first lost u) (mapped : u.Mapped)
    (moves : List (Move σ κ ρ)) : (u.run moves).Tidy := by
  induction moves generalizing u lost with
  | nil => exact h
  | cons m moves ih =>
    obtain ⟨lost, next⟩ := ledger.step mapped m
    exact ih (h.step ledger mapped m) next (mapped.step m)

/-- What has become of a hub `o` whose pools were all closed. -/
structure After (o u : Hub σ κ) : Prop where
  shut : ∀ n < o.world.pools.length, u.world.AtPool n (Pool.Shut 0)
  longer : o.world.pools.length ≤ u.world.pools.length
  origin : o.origin ⊆ u.origin
  registered : ∀ e ∈ u.registry.pools, o.world.pools.length ≤ e.2
  made : ∃ more, u.made = o.made ++ more ∧
    ∀ m ∈ more, ∀ n, m.pool = some n → o.world.pools.length ≤ n

theorem step_disposeAll_after (h : u.Tidy) (mapped : u.Mapped)
    (whole : (u.step (.disposeAll : Move σ κ ρ)).torn = false) :
    (u.step (.disposeAll : Move σ κ ρ)).After (u.step (.disposeAll : Move σ κ ρ)) where
  shut n hn := by
    refine h.swept mapped whole n ?_
    rwa [← World.length_of_factories_eq (u.registry.closePools_factories u.world)]
  longer := Nat.le_refl _
  origin := List.Subset.refl _
  registered _ he := absurd he List.not_mem_nil
  made := ⟨[], (List.append_nil _).symm, fun _ hm => absurd hm List.not_mem_nil⟩

namespace After

/-- A facade finds its pool in the registry or opens a new one. -/
theorem serves (h : o.After u) {f : Factory σ κ} {c : Configuration} {pool : Option Nat}
    {registry : Registry σ κ} {w : World σ κ} (served : u.registry.Serves u.world f c pool registry w) :
    (∀ n, pool = some n → o.world.pools.length ≤ n) ∧
      ∀ e ∈ registry.pools, o.world.pools.length ≤ e.2 := by
  cases served with
  | unpooled => exact ⟨fun _ none => (nomatch none), h.registered⟩
  | @shared on id found =>
    refine ⟨fun n same => ?_, h.registered⟩
    obtain ⟨e, he, rfl⟩ := Option.map_eq_some_iff.mp found
    exact Option.some.inj same ▸ h.registered e (List.mem_of_find?_eq_some he)
  | opened =>
    refine ⟨fun n same => Option.some.inj same ▸ h.longer, fun e he => ?_⟩
    rcases List.mem_append.mp he with he | he
    · exact h.registered e he
    · exact List.mem_singleton.mp he ▸ h.longer

theorem step (h : o.After u) (ledger : Ledger first lost u) (mapped : u.Mapped) (m : Move σ κ ρ) :
    o.After (u.step m) := by
  have shut (n : Nat) (hn : n < o.world.pools.length) := ledger.shut mapped m (h.shut n hn)
  have origin := List.Subset.trans h.origin (ledger.origin_subset mapped m)
  have stepped := u.step_cases m
  obtain ⟨more, made, apart⟩ := h.made
  generalize u.step m = v at shut origin stepped ⊢
  cases stepped with
  | still hv => exact {
      shut := shut
      longer := World.length_of_factories_eq hv.factories ▸ h.longer
      origin := origin
      registered := hv.shared ▸ h.registered
      made := ⟨more, hv.made.trans made, apart⟩ }
  | @made facade key c f pool registry w found context served =>
    obtain ⟨own, registered⟩ := h.serves served
    have its : facade.context.pool = pool := congrArg Context.pool context
    refine {
      shut := shut
      longer := Nat.le_trans h.longer served.length_le
      origin := origin
      registered := registered
      made := ⟨more ++ [⟨facade, key, c, some f, u.era⟩], ?_, fun m hm n uses => ?_⟩ }
    · rw [made, List.append_assoc]
    · rcases List.mem_append.mp hm with hm | hm
      · exact apart m hm n uses
      · rw [List.mem_singleton.mp hm] at uses
        exact own n (its.symm.trans uses)
  | swept same era forgotten world => exact {
      shut := shut
      longer := by
        rw [world, World.length_of_factories_eq (u.registry.closePools_factories u.world)]
        exact h.longer
      origin := origin
      registered := fun e he => absurd (forgotten ▸ he) List.not_mem_nil
      made := ⟨more, same.trans made, apart⟩ }

theorem run (h : o.After u) (ledger : Ledger first lost u) (mapped : u.Mapped)
    (moves : List (Move σ κ ρ)) : o.After (u.run moves) := by
  induction moves generalizing u lost with
  | nil => exact h
  | cons m moves ih =>
    obtain ⟨lost, next⟩ := ledger.step mapped m
    exact ih (h.step ledger mapped m) next (mapped.step m)

end After

namespace Ledger

variable {id n : Nat} {p q : Option Nat}

theorem constructed_once (h : Ledger first lost u) (hid : (id, p) ∈ u.origin) :
    Entry.constructions id u.world.site.journal = 1 := by
  have built : id ∈ u.world.site.journal.filterMap Entry.built? := by
    rw [← h.origins]
    exact List.mem_map_of_mem hid
  have some : 0 < Entry.constructions id u.world.site.journal := List.count_pos_iff.mpr built
  have numbered := h.numbered.constructed id
  split at numbered
  · exact numbered
  · omega

theorem origin_unique (h : Ledger first lost u) (hp : (id, p) ∈ u.origin) (hq : (id, q) ∈ u.origin) :
    p = q := by
  have nodup : (u.origin.map Prod.fst).Nodup := by
    rw [h.origins]
    refine List.nodup_iff_count_le_one.mpr fun id => ?_
    have numbered := h.numbered.constructed id
    rw [Entry.constructions] at numbered
    split at numbered <;> omega
  exact congrArg Prod.snd (List.inj_on_of_nodup_map nodup hp hq rfl)

end Ledger

namespace After

variable {id n : Nat}

theorem later (h : o.After u) (m : Made σ κ) (hm : m ∈ u.made.drop o.made.length) (n : Nat)
    (uses : m.pool = some n) : o.world.pools.length ≤ n := by
  obtain ⟨more, made, apart⟩ := h.made
  rw [made, List.drop_left] at hm
  exact apart m hm n uses

theorem empty (h : o.After u) (hn : n < o.world.pools.length) : u.world.idleAt (some n) = [] := by
  obtain ⟨p, hp, shut⟩ := h.shut n hn
  rw [World.idleAt_of_getElem? hp, shut.empty]
  rfl

theorem never_idle (h : o.After u) (ledger : Ledger first lost u) (hn : n < o.world.pools.length)
    (hid : (id, some n) ∈ u.origin) : id ∉ u.world.idleIds := by
  intro idle
  obtain ⟨k, hk⟩ := World.mem_idleIds.mp idle
  obtain rfl : k = n := Option.some.inj (ledger.origin_unique (ledger.stocked hk) hid)
  rw [h.empty hn] at hk
  exact absurd hk List.not_mem_nil

/-- What was there at the disposal has its origin in a pool of then, or in none. -/
theorem unbuilt (h : o.After u) (before : Ledger first lost o)
    (absent : ∀ p, (id, p) ∈ u.origin → ∃ n, p = some n ∧ o.world.pools.length ≤ n) :
    Entry.constructions id o.world.site.journal = 0 := by
  refine List.count_eq_zero_of_not_mem fun built => ?_
  rw [← before.origins] at built
  obtain ⟨⟨_, p⟩, hp, rfl⟩ := List.mem_map.mp built
  obtain ⟨n, rfl, hn⟩ := absent p (h.origin hp)
  exact absurd (before.placed _ hp n rfl) (Nat.not_lt.mpr hn)

/-- What was constructed for a later pool was not there at the disposal. -/
theorem fresh (h : o.After u) (before : Ledger first lost o) (ledger : Ledger first lost' u)
    (hn : o.world.pools.length ≤ n) (hid : (id, some n) ∈ u.origin) :
    Entry.constructions id o.world.site.journal = 0 :=
  h.unbuilt before fun _ hp => ⟨n, ledger.origin_unique hp hid, hn⟩

theorem fresh_acquired (h : o.After u) (before : Ledger first lost o) (ledger : Ledger first lost' u)
    {c : Context σ κ} (later : ∀ n, c.pool = some n → o.world.pools.length ≤ n) {l : Lease σ κ}
    {w : World σ κ} (run : Lease.acquire c u.world = (.ok l, w)) :
    Entry.constructions l.member.id o.world.site.journal = 0 ∧
      Entry.constructions l.member.id w.site.journal = 1 := by
  have exchange := Lease.acquire_exchange c u.world
  have numbered := (Site.numbered_perennial first).acquire c u.world ledger.numbered
  rw [run] at exchange numbered
  have once := numbered.constructed l.member.id
  have most : Entry.constructions l.member.id w.site.journal ≤ 1 := by
    rw [once]
    split <;> omega
  rw [exchange.written, Entry.constructions_append] at most ⊢
  rcases exchange.provenance (.inr (List.mem_singleton_self _)) with idle | given | built
  · cases hc : c.pool with
    | none =>
      rw [hc] at idle
      exact absurd idle List.not_mem_nil
    | some n =>
      rw [hc] at idle
      have hid := ledger.stocked idle
      have there := ledger.constructed_once hid
      exact ⟨h.fresh before ledger (later n hc) hid, by omega⟩
  · exact absurd given List.not_mem_nil
  · have new : 0 < Entry.constructions l.member.id (u.world.news w) := List.count_pos_iff.mpr built
    refine ⟨h.unbuilt before fun p hp => ?_, by omega⟩
    have there := ledger.constructed_once hp
    omega

end After

/-- What holds in a hub `u` that has come of a hub `o` whose pools were all disposed of. -/
structure Spent (o u : Hub σ κ) : Prop where
  /-- The pools that were there are closed and empty. -/
  empty : ∀ n < o.world.pools.length, ∃ p, u.world.pools[n]? = some p ∧ p.closed = true ∧ p.idle = []
  /-- No pool keeps what was constructed for one of them. -/
  never_idle : ∀ id, ∀ n < o.world.pools.length, (id, some n) ∈ u.origin → id ∉ u.world.idleIds
  /-- A lease from one of them is disposed of at its release. -/
  returned : ∀ (k : Nat) (l : Lease σ κ), u.held[k]? = some l →
    ∀ n < o.world.pools.length, l.pool = some n →
      Entry.disposals l.member.id (u.step (.release k : Move σ κ Unit)).world.site.journal =
        Entry.disposals l.member.id u.world.site.journal + 1
  /-- All that was ever constructed has its origin. -/
  origins : u.origin.map Prod.fst = u.world.site.journal.filterMap Entry.built?
  /-- What was constructed for one of them is held, or has been disposed of once. -/
  disposed : ∀ id, ∀ n < o.world.pools.length, (id, some n) ∈ u.origin →
    u.outIds.count id + Entry.disposals id u.world.site.journal ≤ 1 ∧
      (u.cut = false → u.outIds.count id + Entry.disposals id u.world.site.journal = 1)
  /-- A facade that was made since then takes an instance that was constructed since then. -/
  fresh : ∀ m ∈ u.made.drop o.made.length, ∀ l w,
    Lease.acquire m.facade.context u.world = (.ok l, w) →
      Entry.constructions l.member.id o.world.site.journal = 0 ∧
      Entry.constructions l.member.id w.site.journal = 1
  /-- So does a borrow that waits at the pool of such a facade. -/
  fresh_held : ∀ m ∈ u.made.drop o.made.length, ∀ n, m.pool = some n →
    o.world.pools.length ≤ n ∧ ∀ l ∈ u.held, l.pool = some n →
      Entry.constructions l.member.id o.world.site.journal = 0

theorem After.returned (h : o.After u) {k : Nat} {l : Lease σ κ}
    (held : u.held[k]? = some l) {n : Nat} (hn : n < o.world.pools.length) (its : l.pool = some n) :
    Entry.disposals l.member.id (u.step (.release k : Move σ κ ρ)).world.site.journal =
      Entry.disposals l.member.id u.world.site.journal + 1 := by
  have there : ∀ j, l.pool = some j → j < u.world.pools.length := by
    intro j same
    rw [Option.some.inj (same.symm.trans its)]
    exact Nat.lt_of_lt_of_le hn h.longer
  have world : (u.step (.release k : Move σ κ ρ)).world = (l.release u.world).2 := by
    rw [Hub.step, held]
  have exchange := l.release_exchange u.world there
  have shut := Lease.release_keeps Pool.notes_shut its (Pool.giveBack_shut l.member) u.world
    (h.shut n hn)
  have unbuilt := (Site.unbuilt_lasting u.world.site.journal).release l u.world u.world.site.grown_self
  obtain ⟨p, hp, shut⟩ := shut
  have balance := exchange.balance l.member.id
  rw [its, h.empty hn, World.idleAt_of_getElem? hp, shut.empty, Entry.constructions,
    List.filterMap_eq_nil_iff.mpr (World.written_of_grown unbuilt).2, List.count_singleton_self]
    at balance
  rw [world, exchange.written, Entry.disposals_append]
  simp only [ids, List.map_nil, List.count_nil] at balance
  omega

theorem After.spent (h : o.After u) (before : Ledger first lost o) (ledger : Ledger first lost' u) :
    o.Spent u where
  empty n hn := by
    obtain ⟨p, hp, shut⟩ := h.shut n hn
    exact ⟨p, hp, shut.closed, shut.empty⟩
  never_idle id n hn hid := h.never_idle ledger hn hid
  returned k l held n hn its := h.returned held hn its
  origins := ledger.origins
  disposed id n hn hid := by
    have balance := ledger.balance id
    rw [ledger.constructed_once hid,
      List.count_eq_zero_of_not_mem (h.never_idle ledger hn hid)] at balance
    refine ⟨by omega, fun whole => ?_⟩
    rw [ledger.whole whole, List.count_nil] at balance
    omega
  fresh m hm l w run := h.fresh_acquired before ledger (h.later m hm) run
  fresh_held m hm n uses := by
    refine ⟨h.later m hm n uses, fun l hl its => ?_⟩
    exact h.fresh before ledger (h.later m hm n uses) (its ▸ ledger.lent l hl)

/-- After the disposal of all pools nothing of theirs is left but what is held, and that is disposed
of when it comes back. -/
theorem spent_of_run (reserved : ReservedNames) (site : Site σ κ) (moves later : List (Move σ κ ρ))
    (whole : ((start reserved site).run (moves ++ [.disposeAll])).torn = false) :
    ((start reserved site).run (moves ++ [.disposeAll])).Spent
      ((start reserved site).run (moves ++ [.disposeAll] ++ later)) := by
  have mapped := (start_mapped reserved site).run moves
  obtain ⟨lost, ledger⟩ := (start_ledger reserved site).run (start_mapped reserved site) moves
  have tidy := (start_tidy reserved site).run (start_ledger reserved site)
    (start_mapped reserved site) moves
  have swept : (start reserved site).run (moves ++ [.disposeAll]) =
      ((start reserved site).run moves).step (.disposeAll : Move σ κ ρ) := List.foldl_append
  have onward : (start reserved site).run (moves ++ [.disposeAll] ++ later) =
      ((start reserved site).run (moves ++ [.disposeAll])).run later := List.foldl_append
  rw [onward, swept]
  rw [swept] at whole
  obtain ⟨lost, closed⟩ := ledger.step mapped (.disposeAll : Move σ κ ρ)
  have mapped' := mapped.step (.disposeAll : Move σ κ ρ)
  obtain ⟨lost', last⟩ := closed.run mapped' later
  exact ((step_disposeAll_after tidy mapped whole).run closed mapped' later).spent closed last

open Pool (quietScript quietSite)

/-- One instance is held when all pools are disposed of. Its disposal fails. -/
def heldMoves : List (Move Resources Filter Unit) :=
  [.register ((quietScript.disposing [some .authenticationFailed]).factory 0),
    .newFacade quietScript.key quietConfiguration, .hold 0]

/-- A facade is made and holds an instance, and the first instance comes back. -/
def afterwards : List (Move Resources Filter Unit) :=
  [.newFacade quietScript.key quietConfiguration, .hold 1, .release 1]

theorem heldMoves_spent :
    ((start .standard quietSite).run (heldMoves ++ [.disposeAll])).torn = false ∧
      ((start .standard quietSite).run (heldMoves ++ [.disposeAll])).Spent
        ((start .standard quietSite).run (heldMoves ++ [.disposeAll] ++ afterwards)) ∧
      ((start .standard quietSite).run (heldMoves ++ [.disposeAll])).outIds = [0] ∧
      ((start .standard quietSite).run (heldMoves ++ [.disposeAll] ++ afterwards)).outIds = [1] ∧
      Entry.disposals 0 ((start .standard quietSite).run
        (heldMoves ++ [.disposeAll] ++ afterwards)).world.site.journal = 1 := by
  have whole : ((start .standard quietSite).run (heldMoves ++ [.disposeAll])).torn = false := by
    decide +kernel
  exact ⟨whole, spent_of_run .standard quietSite heldMoves afterwards whole, by decide +kernel,
    by decide +kernel, by decide +kernel⟩

end Hub

end ConnectorHub
