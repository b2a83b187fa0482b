import ConnectorHub.Hub.Registry
import ConnectorHub.Proofs.Hub.Request
import ConnectorHub.Proofs.Pool.Usage

namespace ConnectorHub

/-- A facade that was made, with what was asked for, the factory that was registered then, and how
often the registry had disposed of its pools before. -/
structure Made (σ κ : Type) where
  facade : Facade σ κ
  key : ConnectorKey
  configuration : Configuration
  registered : Option (Factory σ κ)
  era : Nat

/-- A borrow that waits at a pool. -/
structure Borrower where
  key : ConnectorKey
  pool : Nat
  waiter : Pool.Waiter

/-- `origin` tells for which pool an instance was constructed, if for any. -/
structure Hub (σ κ : Type) where
  world : World σ κ
  registry : Registry σ κ
  made : List (Made σ κ) := []
  era : Nat := 0
  held : List (Lease σ κ) := []
  waiting : List Borrower := []
  origin : List (Nat × Option Nat) := []
  /-- Whether a call was cut short. -/
  cut : Bool := false
  /-- Whether the disposal of all pools was cut short. -/
  torn : Bool := false

namespace Hub

variable {σ κ ρ : Type}

inductive Move (σ κ ρ : Type) where
  | register (f : Factory σ κ)
  | newFacade (key : ConnectorKey) (c : Configuration)
  | disposeAll
  | call (n : Nat) (x : Request ρ) (caller : ρ)
  /-- Takes an instance and keeps it. -/
  | hold (n : Nat)
  | release (n : Nat)
  /-- A borrow that may have to wait while others go on. -/
  | begin (n : Nat)
  | resume (n : Nat)
  | expire (n : Nat)
  | wait (ms : Nat)
  /-- The resource changes, and with it what the connectors will answer. -/
  | turn (resource : σ)

def start (reserved : ReservedNames) (site : Site σ κ) : Hub σ κ where
  world := { site := { site with journal := [] } }
  registry := { reserved := reserved }

/-- The hub in a later world; what was constructed up to then was for this pool. -/
def reach (u : Hub σ κ) (pool : Option Nat) (w : World σ κ) : Hub σ κ :=
  let new := (w.site.since u.world.site.journal.length).filterMap Entry.built?
  { u with world := w, origin := u.origin ++ new.map fun id => (id, pool) }

/-- How far a borrow at a pool got. -/
def progress (u : Hub σ κ) (key : ConnectorKey) (pool : Nat) :
    Except Stop (Pool.Progress σ κ) × World σ κ → Hub σ κ
  | (.ok (.waiting waiter), w) =>
    { u.reach (some pool) w with waiting := ⟨key, pool, waiter⟩ :: u.waiting }
  | (.ok (.ended (.ok i)), w) =>
    { u.reach (some pool) w with held := ⟨i, key, some pool⟩ :: u.held }
  | (.ok (.ended (.error _)), w) => u.reach (some pool) w
  | (.error why, w) => { u.reach (some pool) w with cut := u.cut || why.abrupt }

/-- Goes on with a borrow that waits. -/
def goOn (u : Hub σ κ) (n : Nat)
    (x : Pool.Progress σ κ → Action (Pool.At σ κ) (Pool.Progress σ κ)) : Hub σ κ :=
  match u.waiting[n]? with
  | some b =>
    { u with waiting := u.waiting.eraseIdx n }.progress b.key b.pool
      (World.onPool b.pool (x (.waiting b.waiter)) u.world)
  | none => u

def step (u : Hub σ κ) : Move σ κ ρ → Hub σ κ
  | .register f =>
    match u.registry.register f u.world with
    | (.ok registry, w) => { u with world := w, registry := registry }
    | (.error _, w) => { u with world := w }
  | .newFacade key c =>
    match u.registry.newFacade key c u.world with
    | (.ok (facade, registry), w) =>
      let m : Made σ κ := ⟨facade, key, c, u.registry.find? key, u.era⟩
      { u with world := w, registry := registry, made := u.made ++ [m] }
    | (.error _, w) => { u with world := w }
  | .disposeAll =>
    let (result, w) := u.registry.closePools u.world
    { u with
      world := w
      registry := u.registry.withoutPools
      era := u.era + 1
      cut := u.cut || Pool.cutBy result
      torn := u.torn || Pool.cutBy result }
  | .call n x caller =>
    match u.made[n]? with
    | some m =>
      let (result, w, _) := m.facade.perform x (u.world, caller)
      { u.reach m.facade.context.pool w with cut := u.cut || Pool.cutBy result }
    | none => u
  | .hold n =>
    match u.made[n]? with
    | some m =>
      match Lease.acquire m.facade.context u.world with
      | (.ok l, w) => { u.reach m.facade.context.pool w with held := l :: u.held }
      | (.error why, w) =>
        { u.reach m.facade.context.pool w with cut := u.cut || why.abrupt }
    | none => u
  | .release n =>
    match u.held[n]? with
    | some l =>
      let (result, w) := l.release u.world
      { u with world := w, held := u.held.eraseIdx n, cut := u.cut || Pool.cutBy result }
    | none => u
  | .begin n =>
    match u.made[n]? with
    | some m =>
      match m.facade.context.pool with
      | some pool =>
        u.progress m.facade.context.factory.key pool (World.onPool pool Pool.begin u.world)
      | none => u
    | none => u
  | .resume n => u.goOn n Pool.resume
  | .expire n => u.goOn n (Pool.expire u.world.site.clock)
  | .wait ms =>
    { u with world := { u.world with site := { u.world.site with clock := u.world.site.clock + ms } } }
  | .turn resource =>
    { u with world := { u.world with site := { u.world.site with resource := resource } } }

def run (u : Hub σ κ) (moves : List (Move σ κ ρ)) : Hub σ κ := moves.foldl step u

end Hub

end ConnectorHub
