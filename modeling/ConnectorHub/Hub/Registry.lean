import ConnectorHub.Hub.Facade

namespace ConnectorHub

/-- What facades that share a pool have in common; the configuration is given by its text. -/
structure PoolKey where
  connector : ConnectorKey
  configuration : String
  deriving DecidableEq

/-- Knows the factories and makes facades of them. Pooled facades of one connector and one
configuration share a pool. -/
structure Registry (σ κ : Type) where
  factories : List (Factory σ κ) := []
  pools : List (PoolKey × Nat) := []
  reserved : ReservedNames

namespace Registry

variable {σ κ : Type}

def find? (r : Registry σ κ) (key : ConnectorKey) : Option (Factory σ κ) :=
  r.factories.find? fun f => f.key == key

/-- Replaces any factory of the same key. -/
def register (r : Registry σ κ) (f : Factory σ κ) : Action (World σ κ) (Registry σ κ) := do
  World.note (.registering f.key)
  pure { r with factories := f :: r.factories.filter fun g => g.key != f.key }

def isRegistered (r : Registry σ κ) (key : ConnectorKey) : Bool := (r.find? key).isSome

/-- The keys of all factories in their order. -/
def keys (r : Registry σ κ) : List ConnectorKey :=
  (r.factories.map Factory.key).mergeSort fun a b => a.order b != .gt

def pool? (r : Registry σ κ) (key : PoolKey) : Option Nat :=
  (r.pools.find? fun e => e.1 == key).map Prod.snd

/-- The shared pool of a connector and a configuration, made when it is first asked for. -/
def sharedPool (r : Registry σ κ) (f : Factory σ κ) (c : Configuration) :
    Action (World σ κ) (Nat × Registry σ κ) :=
  let key : PoolKey := ⟨f.key, c.sharingKey⟩
  match r.pool? key with
  | some id => pure (id, r)
  | none => do
    World.note (.creatingPool f.key)
    let id ← World.addPool f c.properties c.pool
    pure (id, { r with pools := r.pools ++ [(key, id)] })

def newFacade (r : Registry σ κ) (key : ConnectorKey) (c : Configuration) :
    Action (World σ κ) (Facade σ κ × Registry σ κ) :=
  match r.find? key with
  | none => Action.fail (.notRegistered key)
  | some f =>
    if c.poolingEnabled then do
      let (id, r) ← r.sharedPool f c
      let facade ← Facade.new ⟨f, c, some id⟩ r.reserved
      pure (facade, r)
    else do
      let context ← Context.new f c
      let facade ← Facade.new context r.reserved
      pure (facade, r)

def poolCount (r : Registry σ κ) : Nat := r.pools.length

/-- The registry without its pools. -/
def withoutPools (r : Registry σ κ) : Registry σ κ := { r with pools := [] }

/-- Closes every pool. -/
def closePools (r : Registry σ κ) : Action (World σ κ) Unit :=
  Action.forEach r.pools fun e => do
    World.note (.closingPool e.1.connector)
    World.onPool e.2 Pool.close

end Registry

end ConnectorHub
