import ConnectorHub.Action
import ConnectorHub.Capability
import ConnectorHub.Normalizer
import ConnectorHub.Options.Basic
import ConnectorHub.Schema

namespace ConnectorHub

structure Script where
  language : String
  text : String
  arguments : Fields
  deriving DecidableEq

/-- The calls on an instance that answer once. -/
inductive Call where
  | init (properties : Fields)
  | dispose
  | checkAlive
  | create (oc : ObjectClass) (attributes : AttributeSet) (options : Options)
  | delete (oc : ObjectClass) (uid : Uid) (options : Options)
  | update (oc : ObjectClass) (uid : Uid) (attributes : AttributeSet) (options : Options)
  | addValues (oc : ObjectClass) (uid : Uid) (attributes : AttributeSet) (options : Options)
  | removeValues (oc : ObjectClass) (uid : Uid) (attributes : AttributeSet) (options : Options)
  | latestToken (oc : ObjectClass)
  | schema
  | test
  | authenticate (oc : ObjectClass) (username : String) (password : Secret) (options : Options)
  | resolveUsername (oc : ObjectClass) (username : String) (options : Options)
  | scriptOnConnector (script : Script) (options : Options)
  | scriptOnResource (script : Script) (options : Options)
  deriving DecidableEq

/-- What a call answers with. -/
def Call.Reply : Call → Type
  | .init _ | .dispose | .checkAlive | .delete .. | .test => Unit
  | .create .. | .update .. | .addValues .. | .removeValues .. => Uid
  | .authenticate .. | .resolveUsername .. => Uid
  | .latestToken _ => Option Json
  | .schema => Schema
  | .scriptOnConnector .. | .scriptOnResource .. => Json

/-- A stream that sees, after each item, whether more are wanted. -/
inductive Feed (α β : Type) where
  | finish (result : β)
  | offer (item : α) (next : Bool → Feed α β)

/-- How a connector answers calls, over the state `σ` of the resource that its instances share; `κ`
is its type of native queries. -/
structure Connector (σ κ : Type) where
  /-- Whether an instance has a capability, each time it is asked. -/
  provides : Nat → Capability → σ → Bool × σ
  /-- How an instance normalizes now, if it does. -/
  rule : Nat → σ → Option NormalRule
  perform : Nat → (c : Call) → Action σ c.Reply
  translate : Nat → ObjectClass → Options → Filter → σ → List κ × σ
  query : Nat → ObjectClass → Option κ → Options → σ → Feed ResourceObject (Except Stop Unit × σ)
  sync : Nat → ObjectClass → Option Json → Options → σ → Feed SyncDelta (Except Stop Unit × σ)

/-- Makes connectors of one kind. The tag tells apart factories of one key. A factory without a check
of its own accepts all properties. -/
structure Factory (σ κ : Type) where
  tag : Nat
  key : ConnectorKey
  connector : Connector σ κ
  check : Option (Fields → Except Error Unit)

end ConnectorHub
