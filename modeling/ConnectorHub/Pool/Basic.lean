import ConnectorHub.Configuration.Pool
import ConnectorHub.Connector.Instance
import ConnectorHub.Pool.Semaphore

namespace ConnectorHub

structure IdleInstance (σ κ : Type) where
  member : Instance σ κ
  returnedAt : Nat

/-- Keeps initialized instances of one connector for reuse, in the order of their return. A borrow
takes a permit of the gate, of which there are as many as instances may be out at once; the permit is
back when the instance is. -/
structure Pool (σ κ : Type) where
  factory : Factory σ κ
  properties : Fields
  settings : PoolSettings
  gate : Semaphore
  idle : List (IdleInstance σ κ)
  closed : Bool

structure PoolStats where
  idle : Nat
  active : Nat
  deriving DecidableEq, Repr

namespace Pool

variable {σ κ : Type}

/-- An empty pool. Its instances are made when they are borrowed. -/
def new (factory : Factory σ κ) (properties : Fields) (settings : PoolSettings) :
    Except Error (Pool σ κ) :=
  match settings.validate with
  | .error e => .error e
  | .ok () => .ok ⟨factory, properties, settings, ⟨settings.maxObjects.toNat, [], []⟩, [], false⟩

/-- The permits that no instance out came with. -/
def permits (p : Pool σ κ) : Nat := p.gate.unclaimed

def stats (p : Pool σ κ) : PoolStats := ⟨p.idle.length, p.settings.maxObjects.toNat - p.gate.free⟩

/-- The stale instances at the front, as long as more than `minIdle` are there, and the others. -/
def splitStale (now minIdle minAge : Nat) :
    List (IdleInstance σ κ) → List (IdleInstance σ κ) × List (IdleInstance σ κ)
  | [] => ([], [])
  | e :: rest =>
    if minIdle < rest.length + 1 ∧ minAge ≤ now - e.returnedAt then
      let (stale, kept) := splitStale now minIdle minAge rest
      (e :: stale, kept)
    else ([], e :: rest)

/-- A pool at its site. -/
abbrev At (σ κ : Type) := Site σ κ × Pool σ κ

def update (f : Pool σ κ → Pool σ κ) : Action (At σ κ) Unit := .modify fun s => (s.1, f s.2)

def note (n : ConnectorKey → Note) : Action (At σ κ) Unit := do
  let s ← Action.get
  Action.onFirst (Site.note (n s.2.factory.key))

/-- Disposes of an instance; a failure is only noted. -/
def discard (i : Instance σ κ) : Action (At σ κ) Unit := do
  match ← Action.attempt (Action.onFirst i.dispose) with
  | .ok () => pure ()
  | .error e => note fun key => .pooledDisposeFailed key e

/-- Takes the latest returned instance, after the stale ones were taken out to be evicted. -/
def popIdle : Action (At σ κ) (Option (Instance σ κ)) := do
  let (site, p) ← Action.get
  let (stale, kept) :=
    splitStale site.clock p.settings.minIdle.toNat p.settings.minEvictableIdle.toNat p.idle
  update fun p => { p with idle := kept.dropLast }
  Action.forEach stale fun e => do
    note .evicting
    discard e.member
  pure (kept.getLast?.map IdleInstance.member)

def createPooled : Action (At σ κ) (Instance σ κ) := do
  note .creatingPooled
  let (_, p) ← Action.get
  Action.onFirst (Instance.create p.factory p.properties)

/-- The first idle instance that proves alive, or a new one. `tries` is at least the number of idle
instances. -/
def takeLive : Nat → Action (At σ κ) (Instance σ κ)
  | 0 => createPooled
  | tries + 1 => do
    match ← popIdle with
    | none => createPooled
    | some i =>
      match ← Action.attempt (Action.onFirst i.checkAlive) with
      | .ok () => pure i
      | .error e => do
        note fun key => .livenessFailed key e
        discard i
        takeLive tries

/-- Changes the gate only. -/
def regate (f : Semaphore → Semaphore) (p : Pool σ κ) : Pool σ κ := { p with gate := f p.gate }

/-- Takes a permit, which must be there, and an instance. Without an instance the permit is given
back. -/
def enter (take : Semaphore → Semaphore) : Action (At σ κ) (Instance σ κ) := do
  update (regate take)
  let (_, p) ← Action.get
  Action.onStop (takeLive p.idle.length) fun s => (s.1, s.2.regate .release)

def closedError : Error := .internal "connector pool is closed" none

/-- The end of a borrow that waited in vain. -/
def giveUp : Action (At σ κ) (Instance σ κ) := do
  let (_, p) ← Action.get
  Action.onFirst (Site.note (.poolExhausted p.factory.key p.settings.maxObjects.toNat))
  Action.fail (.poolExhausted p.settings.maxWait.toNat)

/-- Borrows an instance; nothing else happens while it waits, so its place in the queue leaves no
trace. -/
def borrow : Action (At σ κ) (Instance σ κ) := do
  let (_, p) ← Action.get
  if p.closed then Action.fail closedError
  else if 0 < p.gate.free then enter .take
  else do
    Action.onFirst (Site.wait p.settings.maxWait.toNat)
    giveUp

/-- Gives an instance back. One too many, or one of a closed pool, is disposed of. -/
def giveBack (i : Instance σ κ) : Action (At σ κ) Unit := do
  let (site, p) ← Action.get
  if p.closed ∨ p.settings.maxIdle.toNat ≤ p.idle.length then do
    update (regate .release)
    Action.onFirst i.dispose
  else
    update fun p => { p with idle := p.idle ++ [⟨i, site.clock⟩], gate := p.gate.release }

/-- Disposes of the idle instances, the longest idle first. -/
def disposeIdle : Action (At σ κ) Unit := do
  let (_, p) ← Action.get
  update fun p => { p with idle := [] }
  Action.forEach p.idle fun e => discard e.member

def close : Action (At σ κ) Unit := do
  update fun p => { p with closed := true }
  disposeIdle

end Pool

end ConnectorHub
