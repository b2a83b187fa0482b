import ConnectorHub.Configuration.Basic
import ConnectorHub.Pool.Waiting

namespace ConnectorHub

/-- The site of the instances and the pools of a hub, each known by its place. -/
structure World (σ κ : Type) where
  site : Site σ κ
  pools : List (Pool σ κ) := []
  facades : Nat := 0

namespace World

variable {σ κ ρ α : Type}

def onSite (x : Action (Site σ κ) α) : Action (World σ κ) α :=
  .zoom World.site (fun t w => { w with site := t }) x

/-- A computation on the site that feeds a caller. -/
def onSiteWith (x : Action (Site σ κ × ρ) α) : Action (World σ κ × ρ) α :=
  .zoom (fun s => (s.1.site, s.2)) (fun t s => ({ s.1 with site := t.1 }, t.2)) x

/-- A computation on one pool; there is none at a place where no pool was made. -/
def onPool (id : Nat) (x : Action (Pool.At σ κ) α) : Action (World σ κ) α := fun w =>
  match w.pools[id]? with
  | some p =>
    let (r, (site, p)) := x (w.site, p)
    (r, { w with site := site, pools := w.pools.set id p })
  | none => (.error (.error Pool.closedError), w)

def note (n : Note) : Action (World σ κ) Unit := onSite (Site.note n)

/-- Makes a pool, for the result to be known by. -/
def addPool (f : Factory σ κ) (properties : Fields) (settings : PoolSettings) :
    Action (World σ κ) Nat := do
  let p ← Action.ofExcept (Pool.new f properties settings)
  let w ← Action.get
  Action.modify fun w => { w with pools := w.pools ++ [p] }
  pure w.pools.length

end World

/-- One configured connector, with the pool of its instances where they are pooled. -/
structure Context (σ κ : Type) where
  factory : Factory σ κ
  configuration : Configuration
  pool : Option Nat

namespace Context

variable {σ κ : Type}

/-- A context with a pool of its own if its configuration asks for pooling. -/
def new (f : Factory σ κ) (c : Configuration) : Action (World σ κ) (Context σ κ) :=
  if c.poolingEnabled then do
    let id ← World.addPool f c.properties c.pool
    pure ⟨f, c, some id⟩
  else pure ⟨f, c, none⟩

def describe (c : Context σ κ) : String :=
  "OperationalContext \x7b connector: " ++ c.factory.key.describe ++ ", pooled: " ++
    toString c.pool.isSome ++ ", .. \x7d"

end Context

/-- An instance held for one call. It goes back to the pool it came from, or is disposed of. -/
structure Lease (σ κ : Type) where
  member : Instance σ κ
  key : ConnectorKey
  pool : Option Nat

namespace Lease

variable {σ κ : Type}

def acquire (c : Context σ κ) : Action (World σ κ) (Lease σ κ) :=
  match c.pool with
  | some id => do
    let i ← World.onPool id Pool.borrow
    World.note (.borrowed c.factory.key)
    let i ← World.onSite i.renew
    pure ⟨i, c.factory.key, some id⟩
  | none => do
    let i ← World.onSite (Instance.create c.factory c.configuration.properties)
    World.note (.created c.factory.key)
    pure ⟨i, c.factory.key, none⟩

/-- Never fails: what goes wrong is noted. -/
def release (l : Lease σ κ) : Action (World σ κ) Unit :=
  match l.pool with
  | some id => do
    match ← Action.attempt (World.onPool id (Pool.giveBack l.member)) with
    | .ok () => World.note (.returned l.key)
    | .error e => World.note (.returnFailed l.key e)
  | none => do
    match ← Action.attempt (World.onSite l.member.dispose) with
    | .ok () => World.note (.disposed l.key)
    | .error e => World.note (.disposeFailed l.key e)

def describe (l : Lease σ κ) : String :=
  "ConnectorLease \x7b connector: " ++ l.key.describe ++ ", pooled: " ++
    toString l.pool.isSome ++ ", .. \x7d"

end Lease

namespace Context

variable {σ κ ρ α : Type}

/-- Runs on an instance that is released however the run ends. -/
def withInstance (c : Context σ κ) (x : Instance σ κ → Action (Site σ κ) α) :
    Action (World σ κ) α := do
  let lease ← Lease.acquire c
  Action.ensuring (World.onSite (x lease.member)) lease.release

/-- The same for a run that feeds a caller. -/
def feedingFrom (c : Context σ κ) (x : Instance σ κ → Action (Site σ κ × ρ) α) :
    Action (World σ κ × ρ) α := do
  let lease ← Action.onFirst (Lease.acquire c)
  Action.ensuring (World.onSiteWith (x lease.member)) (Action.onFirst lease.release)

end Context

end ConnectorHub
