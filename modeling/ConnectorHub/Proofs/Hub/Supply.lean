import ConnectorHub.Proofs.Hub.Sharing
import ConnectorHub.Proofs.Hub.Writes

namespace ConnectorHub

open ConnectorHub.Action

variable {σ κ ρ α : Type}

/-- Constructs an instance by the factory of this tag, or none. -/
def Entry.MadeBy (tag : Nat) (e : Entry κ) : Prop := ∀ inst maker, e = .built inst maker → maker = tag

theorem Entry.madeBy_of_built? {tag : Nat} {e : Entry κ} (h : e.built? = none) : e.MadeBy tag := by
  rintro inst maker rfl
  cases h

theorem Entry.madeBy_of_workOf {tag id : Nat} {e : Entry κ} (h : e.WorkOf id) : e.MadeBy tag := by
  rintro inst maker rfl
  cases h

theorem Entry.madeBy_of_closingOf {tag id : Nat} {e : Entry κ} (h : e.ClosingOf id) :
    e.MadeBy tag := by
  rintro inst maker rfl
  cases h

/-- All that a pool has constructed since then is of its factory. -/
theorem Pool.madeBy_lasting (f : Factory σ κ) (before : List (Entry κ)) :
    Perennial (fun s : At σ κ => s.2.factory = f ∧ s.1.Grown (Entry.MadeBy f.tag) before) where
  write he hs := ⟨hs.1, hs.2.write (Entry.madeBy_of_built? he)⟩
  construct hs := by
    refine ⟨hs.1, hs.2.write fun inst maker same => ?_⟩
    rw [← hs.1]
    exact (Entry.built.inj same).2.symm
  onSite _ _ hs := hs
  update _ _ hs := hs
  regate _ hs := hs

theorem Pool.Perennial.acquireUnpooled {I : Pool.At σ κ → Prop} (h : Pool.Perennial I)
    {c : Context σ κ} (hc : c.pool = none) :
    Keeps (fun w => I (w.site, c.noPool)) (Lease.acquire c) := by
  unfold Lease.acquire
  rw [hc]
  have creates : Keeps (fun w => I (w.site, c.noPool))
      (World.onSite (Instance.create c.factory c.configuration.properties)) :=
    fun w held => h.create c.noPool _ w.site held
  exact creates.bind fun i => Keeps.bind (fun w held => h.write rfl held) fun _ => .pure _

/-- The instances of the context are made by this factory: its own, or its pool's. -/
structure Context.SuppliedBy (c : Context σ κ) (f : Factory σ κ) (w : World σ κ) : Prop where
  unpooled : c.pool = none → c.factory = f
  pooled {n : Nat} : c.pool = some n → ∃ p, w.pools[n]? = some p ∧ p.factory = f

namespace Context.SuppliedBy

variable {c : Context σ κ} {f : Factory σ κ} {w w' : World σ κ}

theorem acquire (h : c.SuppliedBy f w) :
    (Lease.acquire c w).2.site.Grown (Entry.MadeBy f.tag) w.site.journal := by
  have made := Pool.madeBy_lasting f w.site.journal
  cases hc : c.pool with
  | none => exact (made.acquireUnpooled hc w ⟨h.unpooled hc, w.site.grown_self⟩).2
  | some n =>
    obtain ⟨p, hp, own⟩ := h.pooled hc
    obtain ⟨p', -, grown⟩ := Lease.acquire_keeps (fun _ _ _ => made.write rfl) hc made.borrow w
      ⟨p, hp, own, w.site.grown_self⟩
    exact grown.2

/-- Work and release construct nothing. -/
theorem course (h : c.SuppliedBy f w) {result : Except Stop α} (course : c.Course w w' result) :
    w'.site.Grown (Entry.MadeBy f.tag) w.site.journal := by
  have acquired := h.acquire
  cases course with
  | refused e told same =>
    rw [same]
    exact w.site.grown_self
  | unacquired why entries failed =>
    rw [failed] at acquired
    exact acquired
  | served l w₁ w₂ entries work closing leased taken upkeep worked still ofMember released returned
      closes =>
    rw [leased] at acquired
    have works : w₂.site.Grown (Entry.MadeBy f.tag) w₁.site.journal :=
      ⟨work, worked, fun e he => Entry.madeBy_of_workOf (ofMember e he)⟩
    have releases : w'.site.Grown (Entry.MadeBy f.tag) w₂.site.journal :=
      ⟨closing, returned.written, fun e he => Entry.madeBy_of_closingOf (closes e he)⟩
    exact (acquired.append works).append releases

end Context.SuppliedBy

namespace Hub

variable {u v : Hub σ κ}

/-- The first facade that uses the pool. -/
def opener? (made : List (Made σ κ)) (n : Nat) : Option (Made σ κ) :=
  made.find? fun m => m.pool == some n

/-- Each pool has the factory that was registered when the first facade that uses it was made. -/
structure Supplied (u : Hub σ κ) : Prop where
  opened {n : Nat} {f : Factory σ κ} : u.world.factories[n]? = some f →
    ∃ m, opener? u.made n = some m ∧ m.registered = some f
  own : ∀ m ∈ u.made, m.registered = some m.facade.context.factory

theorem start_supplied (reserved : ReservedNames) (site : Site σ κ) :
    (start reserved site).Supplied where
  opened hn := nomatch hn
  own _ hm := nomatch hm

namespace Supplied

variable {facade : Facade σ κ} {key : ConnectorKey} {c : Configuration} {f : Factory σ κ}
  {pool : Option Nat} {registry : Registry σ κ} {w : World σ κ}

theorem same (h : u.Supplied) (made : v.made = u.made)
    (factories : v.world.factories = u.world.factories) : v.Supplied where
  opened := by
    rw [made, factories]
    exact h.opened
  own := made ▸ h.own

theorem opener?_append {made : List (Made σ κ)} {n : Nat} {m : Made σ κ} (h : opener? made n = some m)
    (more : List (Made σ κ)) : opener? (made ++ more) n = some m := by
  rw [opener?, List.find?_append]
  exact congrArg (Option.or · _) h

theorem made (h : u.Supplied) (mapped : u.Mapped)
    (context : facade.context = ⟨f, c, pool⟩)
    (served : u.registry.Serves u.world f c pool registry w) : Supplied { u with
      world := w
      registry := registry
      made := u.made ++ [⟨facade, key, c, some f, u.era⟩] } := by
  have its : facade.context.pool = pool := congrArg Context.pool context
  have own : ∀ m ∈ u.made ++ [⟨facade, key, c, some f, u.era⟩],
      m.registered = some m.facade.context.factory := by
    intro m hm
    rcases List.mem_append.mp hm with hm | hm
    · exact h.own m hm
    · rw [List.mem_singleton.mp hm, context]
  refine ⟨fun {n f'} hn => ?_, own⟩
  have earlier {f' : Factory σ κ} (hn : u.world.factories[n]? = some f') :
      ∃ m, opener? (u.made ++ [⟨facade, key, c, some f, u.era⟩]) n = some m ∧
        m.registered = some f' := by
    obtain ⟨m, opened, registered⟩ := h.opened hn
    exact ⟨m, opener?_append opened _, registered⟩
  cases served with
  | unpooled => exact earlier hn
  | shared => exact earlier hn
  | @opened on missing p new =>
    have factories : (u.world.pools ++ [p]).map Pool.factory = u.world.factories ++ [f] := by
      rw [List.map_append, World.factories, List.map_singleton, (Pool.new_ok new).2]
    have hn : (u.world.factories ++ [f])[n]? = some f' := factories ▸ hn
    rcases Nat.lt_trichotomy n u.world.factories.length with before | here | after
    · exact earlier ((List.getElem?_append_left before).symm.trans hn)
    · -- No facade had a pool at this place before.
      rw [here, List.getElem?_concat_length] at hn
      have none : opener? u.made n = Option.none := by
        rw [opener?, List.find?_eq_none]
        intro m hm uses
        have uses : m.pool = some n := by simpa using uses
        have there := (mapped.uses hm uses).2
        rw [here, World.factories, List.length_map] at there
        exact absurd there (Nat.lt_irrefl _)
      refine ⟨⟨facade, key, c, some f, u.era⟩, ?_, hn⟩
      have uses : facade.context.pool = some n := by
        rw [its, here, World.factories, List.length_map]
      rw [opener?, List.find?_append, show u.made.find? _ = Option.none from none]
      simp [Made.pool, uses]
    · rw [List.getElem?_eq_none (by rw [List.length_append]; exact after)] at hn
      cases hn

theorem step (h : u.Supplied) (mapped : u.Mapped) (m : Move σ κ ρ) : (u.step m).Supplied := by
  have cases := u.step_cases m
  generalize u.step m = v at cases ⊢
  cases cases with
  | still hv => exact h.same hv.made hv.factories
  | made _ context served => exact h.made mapped context served
  | swept made era forgotten world =>
    exact h.same made (world ▸ u.registry.closePools_factories u.world)

theorem run (h : u.Supplied) (mapped : u.Mapped) (moves : List (Move σ κ ρ)) :
    (u.run moves).Supplied := by
  induction moves generalizing u with
  | nil => exact h
  | cons m moves ih => exact ih (h.step mapped m) (mapped.step m)

/-- A facade whose pool was opened by itself, or by facades of one factory with it. -/
theorem suppliedBy (h : u.Supplied) (mapped : u.Mapped) {earlier later : List (Made σ κ)}
    {m : Made σ κ} (made : u.made = earlier ++ m :: later)
    (same : ∀ e ∈ earlier, e.pooled = true → e.pool = m.pool → e.registered = m.registered) :
    ∃ f, m.registered = some f ∧ m.facade.context.SuppliedBy f u.world := by
  have hm : m ∈ u.made := made ▸ List.mem_append_right _ List.mem_cons_self
  have own := h.own m hm
  refine ⟨_, own, fun _ => rfl, fun {n} uses => ?_⟩
  have uses : m.pool = some n := uses
  have there := (mapped.uses hm uses).2
  refine ⟨u.world.pools[n], List.getElem?_eq_getElem there, ?_⟩
  have place : u.world.factories[n]? = some u.world.pools[n].factory := by
    rw [World.factories, List.getElem?_map, List.getElem?_eq_getElem there, Option.map_some]
  obtain ⟨first, opened, registered⟩ := h.opened place
  have its : first.registered = m.registered := by
    rw [opener?, made, List.find?_append] at opened
    cases before : earlier.find? fun m => m.pool == some n with
    | none =>
      rw [before, List.find?_cons_of_pos (by simpa using uses)] at opened
      rw [← Option.some.inj opened]
    | some e =>
      rw [before] at opened
      obtain rfl : e = first := Option.some.inj opened
      have he := List.mem_of_find?_eq_some before
      have shares : e.pool = some n := by simpa using List.find?_some before
      have pooled := (mapped.uses (made ▸ List.mem_append_left _ he) shares).1
      exact same e he pooled (shares.trans uses.symm)
  exact Option.some.inj (registered.symm.trans (its.trans own))

end Supplied

/-- All that a facade's calls construct is of the factory that was registered when the facade was
made, unless it shares its pool with a facade that was made before, under another factory. -/
theorem constructs_registered (reserved : ReservedNames) (site : Site σ κ)
    (moves : List (Move σ κ ρ)) {earlier later : List (Made σ κ)} {m : Made σ κ}
    (made : ((start reserved site).run moves).made = earlier ++ m :: later)
    (same : ∀ e ∈ earlier, e.pooled = true → e.pool = m.pool → e.registered = m.registered) :
    ∃ f, m.registered = some f ∧
      m.facade.context.SuppliedBy f ((start reserved site).run moves).world ∧
      ∀ (x : Request ρ) (r : ρ),
        (m.facade.perform x (((start reserved site).run moves).world, r)).2.1.site.Grown
          (Entry.MadeBy f.tag) ((start reserved site).run moves).world.site.journal := by
  have mapped := (start_mapped reserved site).run moves
  have supplied := (start_supplied reserved site).run (start_mapped reserved site) moves
  obtain ⟨f, registered, by_f⟩ := supplied.suppliedBy mapped made same
  exact ⟨f, registered, by_f, fun x r => by_f.course (m.facade.perform_course x _ r)⟩

open Pool (quietScript quietSite singleSettings)

def quietConfiguration : Configuration where
  poolingEnabled := true
  pool := singleSettings

/-- After a facade was made its factory is replaced, and the same is asked for again. -/
def renewedMoves (between : List (Move Resources Filter Unit)) : List (Move Resources Filter Unit) :=
  [.register (quietScript.factory 0), .newFacade quietScript.key quietConfiguration] ++ between ++
    [.register (quietScript.factory 1), .newFacade quietScript.key quietConfiguration]

def renewedHub (between : List (Move Resources Filter Unit)) : Hub Resources Filter :=
  (start .standard quietSite).run (renewedMoves between)

/-- The tags of the factories that make instances while a facade serves a request. -/
def makers (u : Hub Resources Filter) (m : Made Resources Filter) (x : Request Unit) : List Nat :=
  let after := (m.facade.perform x (u.world, ())).2.1.site
  (after.since u.world.site.journal.length).filterMap fun
    | .built _ maker => some maker
    | _ => none

theorem eq_of_mem_makers {u : Hub Resources Filter} {m : Made Resources Filter} {x : Request Unit}
    {tag maker : Nat} (h : (m.facade.perform x (u.world, ())).2.1.site.Grown (Entry.MadeBy tag)
      u.world.site.journal) (hm : maker ∈ makers u m x) : maker = tag := by
  obtain ⟨es, grown, kinds⟩ := h
  unfold makers at hm
  dsimp only at hm
  rw [Site.since, grown, List.drop_left] at hm
  obtain ⟨e, he, its⟩ := List.mem_filterMap.mp hm
  cases e with
  | built inst other =>
    obtain rfl : other = maker := Option.some.inj its
    exact kinds _ he inst other rfl
  | _ => cases its

/-- After the pools were disposed of, the second facade opens a pool of its own. -/
theorem renewedHub_constructs_registered : ∃ a b f,
    (renewedHub [.disposeAll]).made = [a] ++ b :: [] ∧
      (∀ e ∈ [a], e.pooled = true → e.pool = b.pool → e.registered = b.registered) ∧
      b.registered = some f ∧ f.tag = 1 ∧
      b.facade.context.SuppliedBy f (renewedHub [.disposeAll]).world ∧
      ∀ x : Request Unit, (b.facade.perform x ((renewedHub [.disposeAll]).world, ())).2.1.site.Grown
        (Entry.MadeBy f.tag) (renewedHub [.disposeAll]).world.site.journal := by
  have two : (renewedHub [.disposeAll]).made.length = 2 := by decide +kernel
  have pools : (renewedHub [.disposeAll]).made.map Made.pool = [some 0, some 1] := by decide +kernel
  have tags : (renewedHub [.disposeAll]).made.map (fun m => m.registered.map Factory.tag) =
      [some 0, some 1] := by
    decide +kernel
  obtain ⟨a, b, made⟩ := List.length_eq_two.mp two
  rw [made, List.map_cons, List.map_cons, List.map_nil, List.cons.injEq, List.cons.injEq] at pools tags
  have apart : ∀ e ∈ [a], e.pooled = true → e.pool = b.pool → e.registered = b.registered := by
    intro e he _ shared
    rw [List.mem_singleton.mp he, pools.1, pools.2.1] at shared
    cases shared
  have last : (renewedHub [.disposeAll]).made = [a] ++ b :: [] := made
  obtain ⟨f, registered, supplied, grown⟩ := constructs_registered .standard quietSite
    (renewedMoves [.disposeAll]) last apart
  have tag : f.tag = 1 := by simpa [registered] using tags.2.1
  exact ⟨a, b, f, last, apart, registered, tag, supplied, fun x => grown x ()⟩

/-- A facade whose pool was opened before its factory was replaced gets new instances of the factory
that was replaced. -/
theorem constructs_replaced : ¬∀ (moves : List (Move Resources Filter Unit)),
    ∀ m ∈ ((start .standard quietSite).run moves).made, ∀ f, m.registered = some f →
      ∀ x : Request Unit, (m.facade.perform x
        (((start .standard quietSite).run moves).world, ())).2.1.site.Grown (Entry.MadeBy f.tag)
          ((start .standard quietSite).run moves).world.site.journal := by
  intro always
  have second : ((renewedHub []).made[1]?.bind Made.registered).map Factory.tag = some 1 := by
    decide +kernel
  have made : (renewedHub []).made[1]?.map (fun m => makers (renewedHub []) m .capabilities) =
      some [0] := by
    decide +kernel
  obtain ⟨m, hm, makes⟩ := Option.map_eq_some_iff.mp made
  obtain ⟨f, registered, tag⟩ := Option.map_eq_some_iff.mp second
  rw [hm, Option.bind_some] at registered
  have grown := always (renewedMoves []) m (List.mem_of_getElem? hm) f registered .capabilities
  have wrong := eq_of_mem_makers grown (makes ▸ List.mem_singleton_self 0)
  rw [tag] at wrong
  cases wrong

end Hub

end ConnectorHub
