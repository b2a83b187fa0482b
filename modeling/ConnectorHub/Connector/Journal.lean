import ConnectorHub.Connector.Basic

namespace ConnectorHub

inductive Level where
  | debug
  | info
  | warn
  deriving DecidableEq, Repr

def Level.name : Level → String
  | debug => "DEBUG"
  | info => "INFO"
  | warn => "WARN"

/-- An event worth telling an operator. -/
inductive Note where
  | poolExhausted (key : ConnectorKey) (maxObjects : Nat)
  | evicting (key : ConnectorKey)
  | livenessFailed (key : ConnectorKey) (e : Error)
  | creatingPooled (key : ConnectorKey)
  | pooledDisposeFailed (key : ConnectorKey) (e : Error)
  | initDisposeFailed (key : ConnectorKey) (e : Error)
  | borrowed (key : ConnectorKey)
  | created (key : ConnectorKey)
  | returned (key : ConnectorKey)
  | returnFailed (key : ConnectorKey) (e : Error)
  | disposed (key : ConnectorKey)
  | disposeFailed (key : ConnectorKey) (e : Error)
  | filterSplit (oc : ObjectClass) (queries : Nat)
  | handlerStopped (oc : ObjectClass) (skipped : Nat)
  | emulatingUpdate (oc : ObjectClass) (uid : Uid) (operation : Operation) (attributes : Nat)
  | registering (key : ConnectorKey)
  | creatingPool (key : ConnectorKey)
  | closingPool (key : ConnectorKey)
  deriving DecidableEq

namespace Note

def level : Note → Level
  | poolExhausted .. | pooledDisposeFailed .. | initDisposeFailed .. | returnFailed ..
  | disposeFailed .. => .warn
  | registering _ => .info
  | _ => .debug

def message : Note → String
  | poolExhausted .. => "Connector pool exhausted"
  | evicting _ => "Evicting idle connector instance"
  | livenessFailed .. => "Idle connector instance failed liveness check"
  | creatingPooled _ => "Creating pooled connector instance"
  | pooledDisposeFailed .. => "Failed to dispose pooled connector instance"
  | initDisposeFailed .. => "Failed to dispose connector after init failure"
  | borrowed _ => "Borrowed pooled connector"
  | created _ => "Created connector"
  | returned _ => "Returned connector to pool"
  | returnFailed .. => "Failed to return connector to pool"
  | disposed _ => "Disposed connector"
  | disposeFailed .. => "Failed to dispose connector"
  | filterSplit .. => "Filter split into several native queries"
  | handlerStopped .. => "Handler stopped; skipping remaining native queries"
  | emulatingUpdate .. => "Emulating incremental update with fetch and replace"
  | registering _ => "Registering connector factory"
  | creatingPool _ => "Creating connector pool"
  | closingPool _ => "Closing connector pool"

/-- The particulars, each as text under its name. -/
def particulars : Note → List (String × String)
  | poolExhausted key maxObjects =>
    [("connector", key.display), ("max_objects", toString maxObjects)]
  | livenessFailed key e | pooledDisposeFailed key e | initDisposeFailed key e
  | returnFailed key e | disposeFailed key e => [("connector", key.display), ("error", e.message)]
  | evicting key | creatingPooled key | borrowed key | created key | returned key | disposed key
  | registering key | creatingPool key | closingPool key => [("connector", key.display)]
  | filterSplit oc queries => [("object_class", oc.name), ("queries", toString queries)]
  | handlerStopped oc skipped => [("object_class", oc.name), ("skipped", toString skipped)]
  | emulatingUpdate oc uid operation attributes =>
    [("object_class", oc.name), ("uid", uid.value), ("operation", operation.name),
      ("attributes", toString attributes)]

end Note

inductive Entry (κ : Type) where
  /-- The factory of tag `maker` constructed an instance. -/
  | built (inst maker : Nat)
  | called (inst : Nat) (c : Call)
  | translated (inst : Nat) (oc : ObjectClass) (f : Filter) (options : Options)
  | queried (inst : Nat) (oc : ObjectClass) (query : Option κ) (options : Options)
  | synced (inst : Nat) (oc : ObjectClass) (token : Option Json) (options : Options)
  /-- An object was handed over, and this was the answer. -/
  | handledObject (inst : Nat) (o : ResourceObject) (more : Bool)
  | handledDelta (inst : Nat) (d : SyncDelta) (more : Bool)
  | checked (properties : Fields)
  | noted (n : Note)

end ConnectorHub
