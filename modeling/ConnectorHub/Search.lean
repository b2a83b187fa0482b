import ConnectorHub.Connector.Instance

namespace ConnectorHub.Instance

variable {σ κ ρ : Type}

/-- The stages of every search, the connector's side first. -/
def searchStages (n : Normalizer) (f : Option Filter) (names : Option (List String)) : List Stage :=
  [.normalize n, .filter f, .project names]

/-- Runs with a chain of stages in front of the caller. -/
def withStages {α : Type} (stages : List Stage) (x : Action (Site σ κ × (List Stage × ρ)) α) :
    Action (Site σ κ × ρ) α := fun s =>
  let (r, t) := x (s.1, (stages, s.2))
  (r, (t.1, t.2.2))

/-- Whether the deduplicating stage at the head of a chain still wants objects. -/
def wanting (stages : List Stage) : Bool := (stages.head?.bind Stage.wanting?).getD true

/-- Runs the queries in turn until one fails or no more objects are wanted. -/
def executeAll (i : Instance σ κ) (oc : ObjectClass) (h : Handler ρ ResourceObject)
    (options : Options) : List κ → Action (Site σ κ × (List Stage × ρ)) Unit
  | [] => pure ()
  | q :: rest => do
    i.execute oc (some (.own q)) (ResultChain.handler h) options
    let (_, stages, _) ← Action.get
    if wanting stages then executeAll i oc h options rest
    else Action.onFirst (Site.note (.handlerStopped oc rest.length))

/-- The native queries for a filter. Without a filter there are none. -/
def nativeQueries (i : Instance σ κ) (oc : ObjectClass) (options : Options) :
    Option Filter → Action (Site σ κ) (List κ)
  | some f => i.translate oc options f
  | none => pure []

/-- Runs the queries of one search: an unrestricted one where there are none, and with duplicates
dropped where there are several. -/
def runQueries (i : Instance σ κ) (oc : ObjectClass) (h : Handler ρ ResourceObject)
    (options : Options) (stages : List Stage) : List κ → Action (Site σ κ × ρ) Unit
  | [] => withStages stages (i.execute oc none (ResultChain.handler h) options)
  | [q] => withStages stages (i.execute oc (some (.own q)) (ResultChain.handler h) options)
  | queries => do
    Action.onFirst (Site.note (.filterSplit oc queries.length))
    withStages (.fresh :: stages) (i.executeAll oc h options queries)

/-- Hands every object of the class that the filter accepts to the caller. -/
def search (i : Instance σ κ) (oc : ObjectClass) (f : Option Filter)
    (h : Handler ρ ResourceObject) (options : Options) : Action (Site σ κ × ρ) Unit := do
  Action.onFirst (i.require .search)
  let n := i.normalizer oc
  let f := f.map n.onFilter
  let queries ← Action.onFirst (i.nativeQueries oc options f)
  i.runQueries oc h options (searchStages n f options.attributesToGet) queries

/-- Keeps the object it is handed and wants no more. -/
def keepOne : Handler (Option ResourceObject) ResourceObject := fun o _ => (false, some o)

/-- The object of a uid. -/
def getObject (i : Instance σ κ) (oc : ObjectClass) (uid : Uid) (options : Options) :
    Action (Site σ κ) (Option ResourceObject) := do
  let (ended, found) ←
    Action.withState (i.search oc (some (Filter.uidEquals uid)) keepOne options) none
  match ended with
  | .ok () => pure found
  | .error why => Action.stop why

end ConnectorHub.Instance
