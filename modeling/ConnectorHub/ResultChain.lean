import ConnectorHub.Filter.Accept
import ConnectorHub.Normalizer

namespace ConnectorHub

/-- Takes an item and answers whether more are wanted; `ρ` is what it keeps between items. -/
abbrev Handler (ρ α : Type) := α → ρ → Bool × ρ

/-- What a deduplicating stage remembers: the uids it has passed on, and whether its target still
wants objects. -/
structure Seen where
  uids : List String := []
  wanting : Bool := true
  deriving DecidableEq

/-- A stage between a connector that streams objects and a caller that takes them: it changes an
object, drops it or passes it on. -/
inductive Stage where
  | normalize (n : Normalizer)
  | project (names : Option (List String))
  | filter (f : Option Filter)
  | distinct (seen : Seen)

namespace Stage

def fresh : Stage := .distinct {}

/-- For a deduplicating stage, whether its target still wants objects. -/
def wanting? : Stage → Option Bool
  | .distinct seen => some seen.wanting
  | _ => none

end Stage

def projectAll (names : Option (List String)) (o : ResourceObject) : ResourceObject :=
  match names with
  | some names => o.project names
  | none => o

def accepted (f : Option Filter) (o : ResourceObject) : Bool :=
  match f with
  | some f => f.accepts o
  | none => true

namespace ResultChain

variable {ρ : Type}

/-- Hands an object to a chain, the connector's side first: the answer, and the chain and the caller
as they are afterwards. -/
def push (h : Handler ρ ResourceObject) :
    List Stage → ResourceObject → ρ → Bool × (List Stage × ρ)
  | [], o, r => let (more, r) := h o r; (more, [], r)
  | .normalize n :: rest, o, r =>
    let (more, rest, r) := push h rest (n.onObject o) r
    (more, .normalize n :: rest, r)
  | .project names :: rest, o, r =>
    let (more, rest, r) := push h rest (projectAll names o) r
    (more, .project names :: rest, r)
  | .filter f :: rest, o, r =>
    if accepted f o then
      let (more, rest, r) := push h rest o r
      (more, .filter f :: rest, r)
    else (true, .filter f :: rest, r)
  | .distinct seen :: rest, o, r =>
    if !seen.wanting then (false, .distinct seen :: rest, r)
    else if seen.uids.contains o.uid.value then (true, .distinct seen :: rest, r)
    else
      let (more, rest, r) := push h rest o r
      (more, .distinct ⟨o.uid.value :: seen.uids, more⟩ :: rest, r)

/-- A chain as a handler that keeps the stages and the caller. -/
def handler (h : Handler ρ ResourceObject) : Handler (List Stage × ρ) ResourceObject :=
  fun o s => push h s.1 o s.2

/-- Hands over the items one after the other, whatever the answers. -/
def feed {α : Type} (h : Handler ρ α) : List α → ρ → List Bool × ρ
  | [], r => ([], r)
  | a :: rest, r =>
    let (more, r) := h a r
    let (answers, r) := feed h rest r
    (more :: answers, r)

/-- A caller that answers as listed, and yes beyond the list; it keeps what it received, latest
first. -/
def listed {α : Type} : Handler (List Bool × List α) α := fun a s =>
  (s.1.headD true, (s.1.drop 1, a :: s.2))

end ResultChain

/-- A stage between a connector that streams deltas and a caller. -/
inductive DeltaStage where
  | normalize (n : Normalizer)
  | project (names : Option (List String))

def DeltaStage.apply : DeltaStage → SyncDelta → SyncDelta
  | normalize n, d => n.onDelta d
  | project none, d => d
  | project (some names), d => d.mapObject (ResourceObject.project names)

/-- The caller behind the stages, the connector's side first. -/
def DeltaStage.handler {ρ : Type} (stages : List DeltaStage) (h : Handler ρ SyncDelta) :
    Handler ρ SyncDelta :=
  fun d r => h (stages.foldl (fun d stage => stage.apply d) d) r

end ConnectorHub
