import ConnectorHub.Scenario.Basic

namespace ConnectorHub

/-- What happens while a borrow waits: a named instance is returned, or else the pool is closed. -/
structure WaitingEvent where
  after : Nat
  returned : Option String

/-- A step of a caller. `on` names the thing it works on, `name` the thing it makes. -/
inductive Step where
  | register (place : Nat)
  | isRegistered (key : ConnectorKey)
  | keys
  | newFacade (name : String) (key : ConnectorKey) (configuration : Json)
  | poolCount
  | disposeAll
  | context (name : String) (place : Nat) (configuration : Json) (pool : Option String)
  | facade (name on : String) (standard : Bool)
  | lease (name on : String)
  | describe (on : String)
  | drop (name : String)
  | advance (ms : Nat)
  | objects (place : Nat)
  | pool (name : String) (place : Nat) (settings properties : Json)
  | borrow (name on : String)
  | borrowDuring (name on : String) (events : List WaitingEvent)
  | giveBack (on name : String)
  | stats (on : String)
  | close (on : String)
  | member (name : String) (place : Nat) (properties : Json)
  | dispose (name : String)
  | capabilities (on : String)
  | checkAlive (on : String)
  | debug (on : String)
  | require (on : String) (c : Capability)
  | foreignQuery (on : String) (oc : ObjectClass) (options : Options)
  | create (on : String) (oc : ObjectClass) (as : List Attribute) (options : Options)
  | delete (on : String) (oc : ObjectClass) (uid : Uid) (options : Options)
  | update (on : String) (oc : ObjectClass) (uid : Uid) (delta : AttributeSet) (options : Options)
  | changeValues (on : String) (change : ValueChange) (oc : ObjectClass) (uid : Uid)
    (delta : AttributeSet) (options : Options)
  | search (on : String) (oc : ObjectClass) (filter : Option Filter) (answers : List Bool)
    (options : Options)
  | get (on : String) (oc : ObjectClass) (uid : Uid) (options : Options)
  | sync (on : String) (oc : ObjectClass) (token : Option Json) (answers : List Bool)
    (options : Options)
  | latestToken (on : String) (oc : ObjectClass)
  | schema (on : String)
  | test (on : String)
  | validate (on : String)
  | authenticate (on : String) (oc : ObjectClass) (username : String) (password : Secret)
    (options : Options)
  | resolveUsername (on : String) (oc : ObjectClass) (username : String) (options : Options)
  | scriptOnConnector (on : String) (script : Script) (options : Options)
  | scriptOnResource (on : String) (script : Script) (options : Options)
  /-- A step whose document could not be read. -/
  | unreadable

inductive Outcome where
  | done
  | absent
  /-- A document could not be read. -/
  | malformed
  | stopped (why : Stop)
  | flag (b : Bool)
  | number (n : Nat)
  | text (s : String)
  | keys (ks : List ConnectorKey)
  | fresh (b : Bool)
  | leased (pooled : Bool) (debug : String)
  | contextIs (c : Context Resources Filter)
  | facadeIs (key : ConnectorKey) (configuration : Configuration)
  | objects (os : List ResourceObject)
  | stats (s : PoolStats)
  | borrowed (result : Except Error Unit) (events : List Pool.EventResult)
  | capabilities (cs : CapabilitySet)
  | uid (u : Uid)
  | object (o : Option ResourceObject)
  | received (ended : Except Stop Unit) (os : List ResourceObject)
  | receivedDeltas (ended : Except Stop Unit) (ds : List SyncDelta)
  | token (t : Option Json)
  | schema (s : Schema)
  | json (j : Json)

namespace Scenario

variable {α β : Type}

/-- Goes on with what is there, and reports what is not. -/
def given (x : Option α) (f : α → Act Outcome) : Act Outcome :=
  match x with
  | some a => f a
  | none => pure .absent

/-- Goes on with what a document holds. -/
def readable (x : Option α) (f : α → Act Outcome) : Act Outcome :=
  match x with
  | some a => f a
  | none => pure .malformed

/-- Works on the facade of a name. -/
def withFacade (on : String)
    (f : Facade Resources Filter → Action (World Resources Filter) α) (report : α → Outcome) :
    Act Outcome := do
  let s ← Action.get
  given (s.facade? on) fun facade => do
    let a ← onWorld (f facade)
    pure (report a)

/-- Works on the instance of a name, whether held by itself or by a lease. -/
def withMember (on : String)
    (f : Instance Resources Filter → Action (Site Resources Filter) α) (report : α → Outcome) :
    Act Outcome := do
  let s ← Action.get
  given ((s.find? on).bind Thing.instance?) fun i => do
    let a ← onWorld (World.onSite (f i))
    pure (report a)

/-- Works on a facade, or else on an instance. -/
def withEither (on : String)
    (f : Facade Resources Filter → Action (World Resources Filter) α)
    (g : Instance Resources Filter → Action (Site Resources Filter) α) (report : α → Outcome) :
    Act Outcome := do
  let s ← Action.get
  if (s.facade? on).isSome then withFacade on f report else withMember on g report

def withPool (on : String)
    (x : Action (Pool.At Resources Filter) α) (report : α → Outcome) : Act Outcome := do
  let s ← Action.get
  given (s.pool? on) fun id => do
    let a ← onWorld (World.onPool id x)
    pure (report a)

def keeping (name : String) (t : Thing) (outcome : Outcome) : Act Outcome := do
  keep name t
  pure outcome

/-- The events of a wait, with the named instances taken from what is kept. -/
def eventsOf : List WaitingEvent → Act (List (Pool.Meanwhile Resources Filter))
  | [] => pure []
  | e :: rest => do
    let s ← Action.get
    let event ← match e.returned, e.returned.bind s.member? with
      | some name, some i => do
        Action.modify fun s => s.without name
        pure (.giveBack e.after i)
      | _, _ => pure (.close e.after)
    let events ← eventsOf rest
    pure (event :: events)

def borrowDuring (name on : String) (events : List WaitingEvent) : Act Outcome := do
  let s ← Action.get
  given (s.pool? on) fun id => do
    let events ← eventsOf events
    let (result, results) ← onWorld (World.onPool id (Pool.borrowDuring events))
    match result with
    | .ok i => keeping name (.member i) (.borrowed (.ok ()) results)
    | .error e => pure (.borrowed (.error e) results)

/-- Whether no facade that is kept has the id. -/
def isFresh (s : Scenario) (id : FacadeId) : Bool :=
  s.things.all fun e => match e.2 with
    | .facade f => f.id != id
    | _ => true

/-- Steps on the registry, on contexts and on leases. -/
def registryStep : Step → Act Outcome
  | .register place => do
    let s ← Action.get
    given (s.factory? place) fun f => do
      let r ← onWorld (s.registry.register f)
      Action.modify fun s => { s with registry := r }
      pure .done
  | .isRegistered key => do
    let s ← Action.get
    pure (.flag (s.registry.isRegistered key))
  | .keys => do
    let s ← Action.get
    pure (.keys s.registry.keys)
  | .newFacade name key configuration =>
    readable (Configuration.ofDocument? configuration) fun c => do
      let s ← Action.get
      let (f, r) ← onWorld (s.registry.newFacade key c)
      Action.modify fun s => { s with registry := r }
      keeping name (.facade f) (.fresh (s.isFresh f.id))
  | .poolCount => do
    let s ← Action.get
    pure (.number s.registry.poolCount)
  | .disposeAll => do
    let s ← Action.get
    Action.modify fun s => { s with registry := s.registry.withoutPools }
    onWorld s.registry.closePools
    pure .done
  | .context name place configuration pool =>
    readable (Configuration.ofDocument? configuration) fun c => do
      let s ← Action.get
      given (s.factory? place) fun f =>
        match pool with
        | some p => given (s.pool? p) fun id => keeping name (.context ⟨f, c, some id⟩) .done
        | none => do
          let context ← onWorld (Context.new f c)
          keeping name (.context context) .done
  | .facade name on standard => do
    let s ← Action.get
    given (s.context? on) fun c => do
      let f ← onWorld (Facade.new c (if standard then .standard else s.registry.reserved))
      keeping name (.facade f) .done
  | .lease name on => do
    let s ← Action.get
    given (s.context? on) fun c => do
      let l ← onWorld (Lease.acquire c)
      keeping name (.lease l) (.leased l.pool.isSome l.describe)
  | .describe on => do
    let s ← Action.get
    match s.find? on with
    | some (.context c) => pure (.contextIs c)
    | some (.facade f) => pure (.facadeIs f.context.factory.key f.context.configuration)
    | _ => pure .absent
  | .drop name => do
    let found ← discard name
    pure (if found then .done else .absent)
  | .advance ms => do
    onWorld (World.onSite (Site.wait ms))
    pure .done
  | .objects place => do
    let s ← Action.get
    given s.world.site.resource[place]? fun r => pure (.objects r.objects)
  | _ => pure .absent

/-- Steps on pools and instances. -/
def memberStep : Step → Act Outcome
  | .pool name place settings properties =>
    readable (PoolSettings.ofDocument? settings) fun settings => do
      let s ← Action.get
      given (s.factory? place) fun f => do
        let c ← Action.ofExcept (Configuration.ofProperties properties)
        let id ← onWorld (World.addPool f c.properties settings)
        keeping name (.pool id) .done
  | .borrow name on => do
    let s ← Action.get
    given (s.pool? on) fun id => do
      let i ← onWorld (World.onPool id Pool.borrow)
      keeping name (.member i) .done
  | .borrowDuring name on events => borrowDuring name on events
  | .giveBack on name => do
    let s ← Action.get
    given (s.pool? on) fun id =>
      given (s.member? name) fun i => do
        Action.modify fun s => s.without name
        onWorld (World.onPool id (Pool.giveBack i))
        pure .done
  | .stats on => withPool on (do let (_, p) ← Action.get; pure p.stats) .stats
  | .close on => withPool on Pool.close fun _ => .done
  | .member name place properties => do
    let s ← Action.get
    given (s.factory? place) fun f => do
      let c ← Action.ofExcept (Configuration.ofProperties properties)
      let i ← onWorld (World.onSite (Instance.create f c.properties))
      keeping name (.member i) .done
  | .dispose name => do
    let s ← Action.get
    given (s.member? name) fun i => do
      Action.modify fun s => s.without name
      onWorld (World.onSite i.dispose)
      pure .done
  | .checkAlive on => withMember on Instance.checkAlive fun _ => .done
  | .debug on => withMember on (fun i => pure i.describe) .text
  | .require on c =>
    if c = .updateAttributeValues then withMember on Instance.changesValues .flag
    else withMember on (fun i => i.require c) fun _ => .done
  | .foreignQuery on oc options =>
    withMember on (fun i => do
      i.require .search
      let (ended, _) ←
        Action.withState (i.execute oc (some .foreign) Instance.keepOne options) none
      match ended with
      | .ok () => pure ()
      | .error why => Action.stop why) fun _ => .done
  | _ => pure .absent

/-- Searches and syncs, whose results are what the caller was handed. -/
def feedStep : Step → Act Outcome
  | .search on oc filter answers options => do
    let s ← Action.get
    match s.find? on with
    | some (.facade f) => do
      let (ended, os) ← fed answers fun h => f.search oc filter h options
      pure (.received ended os)
    | some t => given t.instance? fun i => do
      let (ended, os) ← fed answers fun h => World.onSiteWith (i.search oc filter h options)
      pure (.received ended os)
    | none => pure .absent
  | .sync on oc token answers options => do
    let s ← Action.get
    given (s.facade? on) fun f => do
      let (ended, ds) ← fed answers fun h => f.sync oc token h options
      pure (.receivedDeltas ended ds)
  | _ => pure .absent

/-- The other steps on facades, some of which are for instances as well. -/
def facadeStep (reserved : ReservedNames) : Step → Act Outcome
  | .create on oc as options => withFacade on (fun f => f.create oc as options) .uid
  | .delete on oc uid options => withFacade on (fun f => f.delete oc uid options) fun _ => .done
  | .update on oc uid delta options =>
    withEither on (fun f => f.update oc uid delta options)
      (fun i => i.update reserved oc uid delta options) .uid
  | .changeValues on change oc uid delta options =>
    withEither on (fun f => f.changeValues change oc uid delta options)
      (fun i => i.changeValues reserved change oc uid delta options) .uid
  | .get on oc uid options =>
    withEither on (fun f => f.getObject oc uid options) (fun i => i.getObject oc uid options)
      .object
  | .capabilities on =>
    withEither on Facade.capabilities (fun i => pure i.capabilities) .capabilities
  | .latestToken on oc => withFacade on (fun f => f.latestToken oc) .token
  | .schema on => withFacade on Facade.schema .schema
  | .test on => withFacade on Facade.test fun _ => .done
  | .validate on => withFacade on Facade.validate fun _ => .done
  | .authenticate on oc username password options =>
    withFacade on (fun f => f.authenticate oc username password options) .uid
  | .resolveUsername on oc username options =>
    withFacade on (fun f => f.resolveUsername oc username options) .uid
  | .scriptOnConnector on script options =>
    withFacade on (fun f => f.scriptOnConnector script options) .json
  | .scriptOnResource on script options =>
    withFacade on (fun f => f.scriptOnResource script options) .json
  | .unreadable => pure .malformed
  | _ => pure .absent

def run (s : Scenario) : Step → Act Outcome
  | step@(.register ..) | step@(.isRegistered ..) | step@.keys | step@(.newFacade ..)
  | step@.poolCount | step@.disposeAll | step@(.context ..) | step@(.facade ..)
  | step@(.lease ..) | step@(.describe ..) | step@(.drop ..) | step@(.advance ..)
  | step@(.objects ..) => registryStep step
  | step@(.pool ..) | step@(.borrow ..) | step@(.borrowDuring ..) | step@(.giveBack ..)
  | step@(.stats ..) | step@(.close ..) | step@(.member ..) | step@(.dispose ..)
  | step@(.checkAlive ..) | step@(.debug ..) | step@(.require ..) | step@(.foreignQuery ..) =>
    memberStep step
  | step@(.search ..) | step@(.sync ..) => feedStep step
  | step => facadeStep s.registry.reserved step

/-- What a step is reported with: its outcome, the calls on connectors, each with the number of its
instance, and the notes. -/
structure Report where
  outcome : Outcome
  calls : List (Option Nat × Entry Filter)
  notes : List Note

/-- The instance an entry is about. -/
def instanceOf? : Entry Filter → Option Nat
  | .called id _ | .translated id .. | .queried id .. | .synced id .. | .handledObject id ..
  | .handledDelta id .. => some id
  | _ => none

def reported? (s : Scenario) (entry : Entry Filter) : Option (Option Nat × Entry Filter) :=
  match entry with
  | .checked _ => some (none, entry)
  | _ => ((instanceOf? entry).bind fun id => s.numbers.lookup id).map fun n => (some n, entry)

def note? : Entry Filter → Option Note
  | .noted n => some n
  | _ => none

def clearJournal (s : Scenario) : Scenario :=
  { s with world := { s.world with site := { s.world.site with journal := [] } } }

def step (s : Scenario) (x : Step) : Report × Scenario :=
  let (result, s) := run s x s.clearJournal
  let journal := s.world.site.journal
  let s := s.number journal
  let outcome := match result with
    | .ok outcome => outcome
    | .error why => .stopped why
  (⟨outcome, journal.filterMap s.reported?, journal.filterMap note?⟩, s)

def steps (s : Scenario) : List Step → List Report
  | [] => []
  | x :: rest =>
    let (report, s) := s.step x
    report :: s.steps rest

end Scenario

end ConnectorHub
