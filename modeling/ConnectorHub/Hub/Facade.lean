import ConnectorHub.Hub.World
import ConnectorHub.Text.Blank
import ConnectorHub.Update

namespace ConnectorHub

/-- The operations that callers have on one configured connector. An operation checks its arguments
before it takes an instance. -/
structure Facade (σ κ : Type) where
  id : FacadeId
  context : Context σ κ
  reserved : ReservedNames

namespace Check

def notBlank (argument text : String) : Except Error Unit :=
  if Text.isBlank text then .error (.invalidArgument argument "must not be blank") else .ok ()

def objectClass (oc : ObjectClass) (o : Operation) : Except Error Unit := do
  notBlank "object_class" oc.name
  if oc.isAll && !o.acceptsAllClasses then
    .error (.invalidArgument "object_class"
      (ObjectClass.allName ++ " is only accepted by sync operations"))
  else .ok ()

def uid (u : Uid) : Except Error Unit := notBlank "uid" u.value

def username (name : String) : Except Error Unit := notBlank "username" name

def script (s : Script) : Except Error Unit := do
  notBlank "language" s.language
  notBlank "text" s.text

/-- The attributes of a new object: of different names and without a uid. -/
def newAttributes (as : List Attribute) : Except Error AttributeSet := do
  let s ← AttributeSet.ofDistinct as
  if s.contains Attribute.uidName then
    .error (.invalidAttributeSet "create attributes cannot contain the uid")
  else .ok s

end Check

namespace Facade

variable {σ κ ρ : Type}

def new (c : Context σ κ) (reserved : ReservedNames) : Action (World σ κ) (Facade σ κ) := do
  let w ← Action.get
  Action.modify fun w => { w with facades := w.facades + 1 }
  pure ⟨⟨BitVec.ofNat 128 w.facades⟩, c, reserved⟩

def create (f : Facade σ κ) (oc : ObjectClass) (as : List Attribute) (options : Options) :
    Action (World σ κ) Uid := do
  Action.ofExcept (Check.objectClass oc .create)
  let s ← Action.ofExcept (Check.newAttributes as)
  f.context.withInstance fun i => do
    i.require .create
    i.uidOf oc (i.call (.create oc ((i.normalizer oc).onAttributes s) options))

def delete (f : Facade σ κ) (oc : ObjectClass) (uid : Uid) (options : Options) :
    Action (World σ κ) Unit := do
  Action.ofExcept (Check.objectClass oc .delete)
  Action.ofExcept (Check.uid uid)
  f.context.withInstance fun i => do
    i.require .delete
    i.call (.delete oc ((i.normalizer oc).onUid uid) options)

def update (f : Facade σ κ) (oc : ObjectClass) (uid : Uid) (delta : AttributeSet)
    (options : Options) : Action (World σ κ) Uid := do
  Action.ofExcept (Check.objectClass oc .update)
  Action.ofExcept (Check.uid uid)
  Action.ofExcept (checkDelta .update delta f.reserved)
  f.context.withInstance fun i => i.update f.reserved oc uid delta options

def changeValues (f : Facade σ κ) (change : ValueChange) (oc : ObjectClass) (uid : Uid)
    (delta : AttributeSet) (options : Options) : Action (World σ κ) Uid := do
  Action.ofExcept (Check.objectClass oc change.operation)
  Action.ofExcept (Check.uid uid)
  Action.ofExcept (checkDelta change.operation delta f.reserved)
  f.context.withInstance fun i => i.changeValues f.reserved change oc uid delta options

def search (f : Facade σ κ) (oc : ObjectClass) (filter : Option Filter)
    (h : Handler ρ ResourceObject) (options : Options) : Action (World σ κ × ρ) Unit := do
  Action.ofExcept (Check.objectClass oc .search)
  f.context.feedingFrom fun i => i.search oc filter h options

def getObject (f : Facade σ κ) (oc : ObjectClass) (uid : Uid) (options : Options) :
    Action (World σ κ) (Option ResourceObject) := do
  Action.ofExcept (Check.objectClass oc .get)
  Action.ofExcept (Check.uid uid)
  f.context.withInstance fun i => i.getObject oc uid options

/-- What happens to a delta between the connector and the caller. -/
def syncStages (n : Normalizer) (names : Option (List String)) : List DeltaStage :=
  [.normalize n, .project names]

def sync (f : Facade σ κ) (oc : ObjectClass) (token : Option Json) (h : Handler ρ SyncDelta)
    (options : Options) : Action (World σ κ × ρ) Unit := do
  Action.ofExcept (Check.objectClass oc .sync)
  f.context.feedingFrom fun i => do
    Action.onFirst (i.require .sync)
    let stages := syncStages (i.normalizer oc) options.attributesToGet
    i.sync oc token (DeltaStage.handler stages h) options

def latestToken (f : Facade σ κ) (oc : ObjectClass) : Action (World σ κ) (Option Json) := do
  Action.ofExcept (Check.objectClass oc .getLatestSyncToken)
  f.context.withInstance fun i => do
    i.require .sync
    i.call (.latestToken oc)

def schema (f : Facade σ κ) : Action (World σ κ) Schema :=
  f.context.withInstance fun i => do
    i.require .schema
    i.call .schema

def test (f : Facade σ κ) : Action (World σ κ) Unit :=
  f.context.withInstance fun i => do
    i.require .test
    i.call .test

/-- Checks the configuration without taking an instance. -/
def validate (f : Facade σ κ) : Action (World σ κ) Unit := do
  let c := f.context.configuration
  if c.poolingEnabled then Action.ofExcept c.pool.validate
  match f.context.factory.check with
  | none => pure ()
  | some check => do
    World.onSite (Site.write (.checked c.properties))
    Action.ofExcept (check c.properties)

def authenticate (f : Facade σ κ) (oc : ObjectClass) (username : String) (password : Secret)
    (options : Options) : Action (World σ κ) Uid := do
  Action.ofExcept (Check.objectClass oc .authenticate)
  Action.ofExcept (Check.username username)
  f.context.withInstance fun i => do
    i.require .authenticate
    i.uidOf oc (i.call (.authenticate oc username password options))

def resolveUsername (f : Facade σ κ) (oc : ObjectClass) (username : String) (options : Options) :
    Action (World σ κ) Uid := do
  Action.ofExcept (Check.objectClass oc .resolveUsername)
  Action.ofExcept (Check.username username)
  f.context.withInstance fun i => do
    i.require .resolveUsername
    i.uidOf oc (i.call (.resolveUsername oc username options))

def scriptOnConnector (f : Facade σ κ) (script : Script) (options : Options) :
    Action (World σ κ) Json := do
  Action.ofExcept (Check.script script)
  f.context.withInstance fun i => do
    i.require .scriptOnConnector
    i.call (.scriptOnConnector script options)

def scriptOnResource (f : Facade σ κ) (script : Script) (options : Options) :
    Action (World σ κ) Json := do
  Action.ofExcept (Check.script script)
  f.context.withInstance fun i => do
    i.require .scriptOnResource
    i.call (.scriptOnResource script options)

def capabilities (f : Facade σ κ) : Action (World σ κ) CapabilitySet :=
  f.context.withInstance fun i => pure i.capabilities

end Facade

end ConnectorHub
