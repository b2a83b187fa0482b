import ConnectorHub.Connector.Journal
import ConnectorHub.ResultChain

namespace ConnectorHub

/-- Where instances live: the time in milliseconds, the state of the resources, how many instances
were made, and the journal. -/
structure Site (σ κ : Type) where
  clock : Nat := 0
  resource : σ
  built : Nat := 0
  journal : List (Entry κ) := []

namespace Site

variable {σ κ : Type}

def write (entry : Entry κ) : Action (Site σ κ) Unit :=
  .modify fun s => { s with journal := s.journal ++ [entry] }

def note (n : Note) : Action (Site σ κ) Unit := write (.noted n)

/-- A computation of a connector on the resource. -/
def onResource {α : Type} (x : Action σ α) : Action (Site σ κ) α :=
  .zoom Site.resource (fun t s => { s with resource := t }) x

def now : Action (Site σ κ) Nat := do
  let s ← Action.get
  pure s.clock

def wait (ms : Nat) : Action (Site σ κ) Unit := .modify fun s => { s with clock := s.clock + ms }

/-- A number for a new instance. -/
def construct (maker : Nat) : Action (Site σ κ) Nat := do
  let s ← Action.get
  .modify fun s => { s with built := s.built + 1 }
  write (.built s.built maker)
  pure s.built

end Site

/-- A connector made by a factory, told apart by its number, with the capabilities that it had when it
was made and with its rule as a request finds it. -/
structure Instance (σ κ : Type) where
  id : Nat
  connector : Connector σ κ
  capabilities : CapabilitySet
  rule : Option NormalRule

/-- A query to run: one of the connector's own, or one made for another connector. -/
inductive NativeQuery (κ : Type) where
  | own (query : κ)
  | foreign

namespace Connector

variable {σ κ : Type}

def call (c : Connector σ κ) (id : Nat) (x : Call) : Action (Site σ κ) x.Reply := do
  Site.write (.called id x)
  Site.onResource (c.perform id x)

def asks (c : Connector σ κ) (id : Nat) (capability : Capability) : Action (Site σ κ) Bool :=
  Site.onResource fun s =>
    let (b, s) := c.provides id capability s
    (.ok b, s)

/-- Asks for each capability in turn. -/
def probe (c : Connector σ κ) (id : Nat) :
    List Capability → CapabilitySet → Action (Site σ κ) CapabilitySet
  | [], found => pure found
  | capability :: rest, found => do
    let has ← c.asks id capability
    probe c id rest (if has then found.insert capability else found)

end Connector

namespace Instance

variable {σ κ ρ : Type}

/-- The instance with the rule that it has now. -/
def renew (i : Instance σ κ) : Action (Site σ κ) (Instance σ κ) := do
  let s ← Action.get
  pure { i with rule := i.connector.rule i.id s.resource }

/-- A new instance, initialized. If that fails the instance is disposed of, and the failure of the
initialization is the one that counts. -/
def create (f : Factory σ κ) (properties : Fields) : Action (Site σ κ) (Instance σ κ) := do
  let id ← Site.construct f.tag
  match ← Action.attempt (f.connector.call id (.init properties)) with
  | .error e => do
    match ← Action.attempt (f.connector.call id .dispose) with
    | .error e => Site.note (.initDisposeFailed f.key e)
    | .ok _ => pure ()
    Action.fail e
  | .ok _ => do
    let capabilities ← f.connector.probe id Capability.all .empty
    renew ⟨id, f.connector, capabilities, none⟩

def call (i : Instance σ κ) (x : Call) : Action (Site σ κ) x.Reply := i.connector.call i.id x

def dispose (i : Instance σ κ) : Action (Site σ κ) Unit := i.call .dispose

def checkAlive (i : Instance σ κ) : Action (Site σ κ) Unit := i.call .checkAlive

/-- A capability that was found at the probe is there no more. -/
def withdrawn (c : Capability) : Error :=
  .internal ("connector stopped providing the '" ++ c.name ++ "' capability") none

/-- Fails unless the instance has the capability, by its probe and still now. -/
def require (i : Instance σ κ) (c : Capability) : Action (Site σ κ) Unit :=
  if i.capabilities.contains c then do
    let has ← i.connector.asks i.id c
    if has then pure () else Action.fail (withdrawn c)
  else Action.fail (.notSupported c.operation)

/-- Whether values can be added and removed natively. -/
def changesValues (i : Instance σ κ) : Action (Site σ κ) Bool :=
  if i.capabilities.contains .updateAttributeValues then
    i.connector.asks i.id .updateAttributeValues
  else pure false

def normalizer (i : Instance σ κ) (oc : ObjectClass) : Normalizer := ⟨oc, i.rule⟩

def translate (i : Instance σ κ) (oc : ObjectClass) (options : Options) (f : Filter) :
    Action (Site σ κ) (List κ) := do
  Site.write (.translated i.id oc f options)
  Site.onResource fun s =>
    let (queries, s) := i.connector.translate i.id oc options f s
    (.ok queries, s)

/-- Hands the items of a feed to a handler; each answer is written down. -/
def deliver {α β : Type} (entry : α → Bool → Entry κ) (h : Handler ρ α) :
    Feed α β → Site σ κ × ρ → β × (Site σ κ × ρ)
  | .finish b, s => (b, s)
  | .offer a next, (s, r) =>
    let (more, r) := h a r
    deliver entry h (next more) ({ s with journal := s.journal ++ [entry a more] }, r)

/-- Runs a feed that ends with an answer and a state of the resource. -/
def stream {α : Type} (entry : α → Bool → Entry κ) (h : Handler ρ α)
    (start : σ → Feed α (Except Stop Unit × σ)) : Action (Site σ κ × ρ) Unit := fun s =>
  let ((result, t), s) := deliver entry h (start s.1.resource) s
  (result, ({ s.1 with resource := t }, s.2))

/-- Runs one query, or an unrestricted one where there is none. -/
def execute (i : Instance σ κ) (oc : ObjectClass) (query : Option (NativeQuery κ))
    (h : Handler ρ ResourceObject) (options : Options) : Action (Site σ κ × ρ) Unit :=
  match query with
  | some .foreign => Action.fail (.internal "native query has the wrong type" none)
  | some (.own q) => do
    Action.onFirst (Site.write (.queried i.id oc (some q) options))
    stream (.handledObject i.id) h (i.connector.query i.id oc (some q) options)
  | none => do
    Action.onFirst (Site.write (.queried i.id oc none options))
    stream (.handledObject i.id) h (i.connector.query i.id oc none options)

def sync (i : Instance σ κ) (oc : ObjectClass) (token : Option Json) (h : Handler ρ SyncDelta)
    (options : Options) : Action (Site σ κ × ρ) Unit := do
  Action.onFirst (Site.write (.synced i.id oc token options))
  stream (.handledDelta i.id) h (i.connector.sync i.id oc token options)

/-- The diagnostic form. -/
def describe (i : Instance σ κ) : String :=
  "ConnectorInstance \x7b capabilities: " ++ i.capabilities.describe ++ ", .. \x7d"

end Instance

end ConnectorHub
