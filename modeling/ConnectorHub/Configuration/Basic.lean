import ConnectorHub.Configuration.Pool
import ConnectorHub.Json.Printer

namespace ConnectorHub

/-- What a caller supplies for one connector: its properties, which the connector reads for itself,
and whether and how its instances are pooled. -/
structure Configuration where
  properties : Fields := []
  poolingEnabled : Bool := false
  pool : PoolSettings := {}
  deriving DecidableEq

namespace Configuration

def standard : Configuration := {}

/-- A configuration without pooling whose properties are the fields of `j`. -/
def ofProperties (j : Json) : Except Error Configuration :=
  match j with
  | .object fields => .ok { properties := fields }
  | other =>
    .error (.invalidConfiguration
      ("connector properties must be a JSON object, got " ++ other.compact))

def withProperty (c : Configuration) (name : String) (value : Json) : Configuration :=
  { c with properties := Keyed.insert Prod.fst (name, value) c.properties }

def withPooling (c : Configuration) (pool : PoolSettings) : Configuration :=
  { c with poolingEnabled := true, pool := pool }

def withoutPooling (c : Configuration) : Configuration := { c with poolingEnabled := false }

def property? (c : Configuration) (name : String) : Option Json := Document.lookup c.properties name

def ofDocument? (j : Json) : Option Configuration := do
  let fields ← Document.fields? j
  let properties ← Document.withDefault fields "properties" [] Document.fields?
  let poolingEnabled ← Document.withDefault fields "pooling_enabled" false Document.bool?
  let pool ← Document.withDefault fields "pool" PoolSettings.standard PoolSettings.ofDocument?
  pure ⟨properties, poolingEnabled, pool⟩

def toDocument (c : Configuration) : Json :=
  .ofFields [("properties", .object c.properties), ("pooling_enabled", .bool c.poolingEnabled),
    ("pool", c.pool.toDocument)]

/-- The text by which configurations are told apart: compact, its parts in the order in which they
are declared. -/
def sharingKey (c : Configuration) : String :=
  Json.compact (.object [("properties", .object c.properties),
    ("pooling_enabled", .bool c.poolingEnabled), ("pool", .object c.pool.fields)])

/-- Why properties do not bind to a connector's own settings. -/
inductive BindFailure where
  | malformed
  | rejected (e : Error)
  deriving DecidableEq

/-- The properties as a connector's own settings, read and then checked. -/
def bind {α : Type} (read : Fields → Option α) (check : α → Except Error Unit)
    (properties : Fields) : Except BindFailure α :=
  match read properties with
  | none => .error .malformed
  | some settings =>
    match check settings with
    | .error e => .error (.rejected e)
    | .ok () => .ok settings

end Configuration

end ConnectorHub
