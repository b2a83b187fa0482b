import ConnectorHub.Hub.Registry
import ConnectorHub.Scripted.Connector

namespace ConnectorHub

/-- What a caller keeps under a name. -/
inductive Thing where
  | facade (f : Facade Resources Filter)
  | context (c : Context Resources Filter)
  | member (i : Instance Resources Filter)
  | lease (l : Lease Resources Filter)
  | pool (id : Nat)

namespace Thing

/-- The pool that the thing keeps alive. -/
def pool? : Thing → Option Nat
  | facade f => f.context.pool
  | context c => c.pool
  | member _ => none
  | lease l => l.pool
  | pool id => some id

/-- The instance that can be worked on without a facade. -/
def instance? : Thing → Option (Instance Resources Filter)
  | member i => some i
  | lease l => some l.member
  | _ => none

end Thing

structure Scenario where
  world : World Resources Filter
  registry : Registry Resources Filter
  scripts : List ConnectorScript
  things : List (String × Thing) := []
  /-- The numbers that instances are reported under. Instances of bare connectors have none. -/
  numbers : List (Nat × Nat) := []

namespace Scenario

def start (scripts : List ConnectorScript) (reserved : ReservedNames) : Scenario where
  world := { site := { resource := scripts.map Resource.ofScript } }
  registry := { reserved := reserved }
  scripts := scripts

def find? (s : Scenario) (name : String) : Option Thing := s.things.lookup name

def facade? (s : Scenario) (name : String) : Option (Facade Resources Filter) :=
  match s.find? name with
  | some (.facade f) => some f
  | _ => none

def context? (s : Scenario) (name : String) : Option (Context Resources Filter) :=
  match s.find? name with
  | some (.context c) => some c
  | _ => none

def member? (s : Scenario) (name : String) : Option (Instance Resources Filter) :=
  match s.find? name with
  | some (.member i) => some i
  | _ => none

def pool? (s : Scenario) (name : String) : Option Nat :=
  match s.find? name with
  | some (.pool id) => some id
  | _ => none

def factory? (s : Scenario) (place : Nat) : Option (Factory Resources Filter) :=
  s.scripts[place]?.map fun script => script.factory place

def without (s : Scenario) (name : String) : Scenario :=
  { s with things := s.things.filter fun e => e.1 != name }

/-- Whether the registry or something kept holds the pool. -/
def holds (s : Scenario) (pool : Nat) : Bool :=
  (s.registry.pools.any fun e => e.2 == pool) || s.things.any fun e => e.2.pool? == some pool

abbrev Act (α : Type) := Action Scenario α

def onWorld {α : Type} (x : Action (World Resources Filter) α) : Act α :=
  .zoom Scenario.world (fun w s => { s with world := w }) x

/-- Runs with a caller that answers as listed, and yes beyond the list; gives what it received. -/
def fed {α : Type} (answers : List Bool)
    (x : Handler (List Bool × List α) α → Action (World Resources Filter × List Bool × List α) Unit) :
    Act (Except Stop Unit × List α) := do
  let (ended, _, received) ← onWorld (Action.withState (x ResultChain.listed) (answers, []))
  pure (ended, received.reverse)

/-- Lets go of a thing that is kept no more. -/
def letGo (t : Thing) : Act Unit := do
  match t with
  | .lease l => onWorld l.release
  | _ => pure ()
  let s ← Action.get
  match t.pool? with
  | some id => if s.holds id then pure () else onWorld (World.onPool id Pool.disposeIdle)
  | none => pure ()

def discard (name : String) : Act Bool := do
  let s ← Action.get
  match s.find? name with
  | some t => do
    Action.modify fun s => s.without name
    letGo t
    pure true
  | none => pure false

/-- Keeps a thing; what was kept under the name before is let go of. -/
def keep (name : String) (t : Thing) : Act Unit := do
  let s ← Action.get
  Action.modify fun s => { s.without name with things := (name, t) :: (s.without name).things }
  match s.find? name with
  | some old => letGo old
  | none => pure ()

/-- Numbers the instances built, in order, but for those of bare connectors. -/
def number (s : Scenario) : List (Entry Filter) → Scenario
  | [] => s
  | .built id maker :: rest =>
    let bare := (s.scripts[maker]?.map ConnectorScript.bare).getD false
    number (if bare then s else { s with numbers := (id, s.numbers.length) :: s.numbers }) rest
  | _ :: rest => number s rest

end Scenario

end ConnectorHub
