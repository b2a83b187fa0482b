import ConnectorHub.Connector.Basic
import ConnectorHub.ReservedNames
import ConnectorHub.ResultChain
import ConnectorHub.Scripted.Dialect
import ConnectorHub.Scripted.Rule

namespace ConnectorHub

/-- What happens instead of a call's answer. -/
inductive Fault where
  | error (e : Error)
  | hang
  | panic (text : String)

def Fault.stop : Fault → Stop
  | error e => .error e
  | hang => .cancelled
  | panic text => .panic text

/-- How a change of the resource is to be reported. -/
structure ChangeScript where
  token : Json
  type : DeltaType
  object : Option (ObjectClass × List BuildStep) := none
  uid : Option String := none
  previousUid : Option String := none
  objectClass : Option String := none

def ChangeScript.draft (c : ChangeScript) (object : Option ResourceObject) : DeltaDraft :=
  let d : DeltaDraft := { token := c.token, type := c.type }
  let d := match object with
    | some o => d.withObject o
    | none => d
  let d := match c.uid with
    | some u => { d with uid := some ⟨u⟩ }
    | none => d
  { d with
    previousUid := c.previousUid.map fun u => ⟨u⟩
    objectClass := match c.objectClass with
      | some name => some ⟨name⟩
      | none => d.objectClass }

/-- The object first, then the delta. -/
def ChangeScript.build (c : ChangeScript) : Except Error SyncDelta :=
  match c.object with
  | none => (c.draft none).build
  | some (oc, steps) => do
    let o ← ResourceObject.ofSteps oc steps
    (c.draft (some o)).build

structure ConnectorScript where
  key : ConnectorKey
  lenient : Bool := false
  bare : Bool := false
  capabilities : List Capability := Capability.all
  flaky : List Capability := []
  late : List Capability := []
  dialect : DialectScript := .full
  rules : Option (List EditRule) := none
  overmatch : Bool := false
  ignoreStop : Bool := false
  faults : List (String × List (Option Fault)) := []
  objects : List ResourceObject := []
  changes : List ChangeScript := []
  latestToken : Option Json := none
  schema : Schema := .empty

/-- A resource in memory: its objects, the calls made so far, and the questions for capabilities,
each with the instance that was asked. -/
structure Resource where
  objects : List ResourceObject
  uses : List String := []
  asked : List (Nat × Capability) := []

/-- One resource for each script. -/
abbrev Resources := List Resource

/-- The name of a call in faults and reports. -/
def Call.name : Call → String
  | init _ => "init"
  | dispose => "dispose"
  | checkAlive => "check_alive"
  | create .. => "create"
  | delete .. => "delete"
  | update .. => "update"
  | addValues .. => "add_attribute_values"
  | removeValues .. => "remove_attribute_values"
  | latestToken _ => "get_latest_sync_token"
  | schema => "schema"
  | test => "test"
  | authenticate .. => "authenticate"
  | resolveUsername .. => "resolve_username"
  | scriptOnConnector .. => "script_on_connector"
  | scriptOnResource .. => "script_on_resource"

namespace Resource

/-- The resource of a script, untouched. -/
def ofScript (s : ConnectorScript) : Resource := { objects := s.objects }

def isAt (oc : ObjectClass) (uid : Uid) (o : ResourceObject) : Bool :=
  o.objectClass.same oc && o.uid == uid

/-- Counts a use of a call and stops where the script has a fault for it. -/
def use (s : ConnectorScript) (name : String) : Action Resource Unit := fun r =>
  let n := r.uses.count name
  let r := { r with uses := name :: r.uses }
  match (s.faults.lookup name).bind fun faults => faults[n]?.join with
  | some fault => (.error fault.stop, r)
  | none => (.ok (), r)

/-- Whether an instance has a capability. A flaky one is there the first time only, a late one from
the second time on. -/
def provides (s : ConnectorScript) (inst : Nat) (c : Capability) (r : Resource) : Bool × Resource :=
  let first := !r.asked.contains (inst, c)
  let r := { r with asked := (inst, c) :: r.asked }
  (s.capabilities.contains c && (first || !s.flaky.contains c) && (!first || !s.late.contains c), r)

def create (oc : ObjectClass) (attributes : AttributeSet) : Action Resource Uid := fun r =>
  match (attributes.get? Attribute.nameName).bind fun a => a.single?.bind Value.text? with
  | none => (.error (.error (.invalidAttributeSet "__NAME__ is required")), r)
  | some name =>
    if r.objects.any (isAt oc ⟨name⟩) then (.error (.error (.objectExists name)), r)
    else
      match ResourceObject.ofSteps oc [.uid name, .several attributes.toList] with
      | .error e => (.error (.error e), r)
      | .ok o => (.ok o.uid, { r with objects := r.objects ++ [o] })

def delete (oc : ObjectClass) (uid : Uid) : Action Resource Unit := fun r =>
  if r.objects.any (isAt oc uid) then (.ok (), { r with objects := r.objects.eraseP (isAt oc uid) })
  else (.error (.error (.unknownUid oc.name uid.value)), r)

/-- Changes the attributes of the first object of a class and uid. -/
def change (oc : ObjectClass) (uid : Uid) (f : AttributeSet → AttributeSet) : Action Resource Uid :=
  fun r =>
    match r.objects.find? (isAt oc uid) with
    | none => (.error (.error (.unknownUid oc.name uid.value)), r)
    | some o =>
      match ResourceObject.build oc (f o.attributes) with
      | .error e => (.error (.error e), r)
      | .ok changed =>
        (.ok changed.uid, { r with
          objects := r.objects.takeWhile (fun p => !isAt oc uid p) ++
            changed :: (r.objects.dropWhile fun p => !isAt oc uid p).drop 1 })

/-- An empty attribute goes, any other replaces the one of its name. -/
def replaceIn (s : AttributeSet) (a : Attribute) : AttributeSet :=
  if a.values.isEmpty then s.erase a.name else s.insert a

def addIn (s : AttributeSet) (a : Attribute) : AttributeSet :=
  match s.get? a.name with
  | some existing => s.insert ⟨a.name, existing.values ++ a.values⟩
  | none => s.insert a

def removeIn (s : AttributeSet) (a : Attribute) : AttributeSet :=
  match s.get? a.name with
  | some existing => s.insert { existing with
      values := existing.values.filter fun v => !v.isIn a.values }
  | none => s

def single? (o : ResourceObject) (name : String) : Option Value :=
  (o.get? name).bind Attribute.single?

def named? (oc : ObjectClass) (username : String) (r : Resource) : Option ResourceObject :=
  r.objects.find? fun o => o.objectClass.same oc && o.name? == some username

def authenticate (oc : ObjectClass) (username : String) (password : Secret) :
    Action Resource Uid := fun r =>
  match named? oc username r with
  | none => (.error (.error .authenticationFailed), r)
  | some o =>
    if single? o Attribute.passwordName ≠ some (.secret password) then
      (.error (.error .authenticationFailed), r)
    else if single? o Attribute.passwordExpiredName = some (.boolean true) then
      (.error (.error .passwordExpired), r)
    else (.ok o.uid, r)

def resolveUsername (oc : ObjectClass) (username : String) : Action Resource Uid := fun r =>
  match named? oc username r with
  | none => (.error (.error (.unknownUid oc.name username)), r)
  | some o => (.ok o.uid, r)

def scriptReport (place : String) (script : Script) : Json :=
  .ofFields [("on", .text place), ("language", .text script.language), ("text", .text script.text),
    ("arguments", .object script.arguments)]

/-- The answer to a call that meets no fault. -/
def answer (s : ConnectorScript) : (c : Call) → Action Resource c.Reply
  | .init _ => (pure () : Action Resource Unit)
  | .dispose => (pure () : Action Resource Unit)
  | .checkAlive => (pure () : Action Resource Unit)
  | .create oc attributes _ => create oc attributes
  | .delete oc uid _ => delete oc uid
  | .update oc uid attributes _ => change oc uid fun set => attributes.toList.foldl replaceIn set
  | .addValues oc uid attributes _ => change oc uid fun set => attributes.toList.foldl addIn set
  | .removeValues oc uid attributes _ =>
    change oc uid fun set => attributes.toList.foldl removeIn set
  | .latestToken _ => (pure s.latestToken : Action Resource (Option Json))
  | .schema => (pure s.schema : Action Resource Schema)
  | .test => (pure () : Action Resource Unit)
  | .authenticate oc username password _ => authenticate oc username password
  | .resolveUsername oc username _ => resolveUsername oc username
  | .scriptOnConnector script _ =>
    (pure (scriptReport "connector" script) : Action Resource Json)
  | .scriptOnResource script _ => (pure (scriptReport "resource" script) : Action Resource Json)

def perform (s : ConnectorScript) (c : Call) : Action Resource c.Reply := do
  use s c.name
  answer s c

/-- The objects that a query finds. -/
def found (s : ConnectorScript) (oc : ObjectClass) (query : Option Filter) (r : Resource) :
    List ResourceObject :=
  r.objects.filter fun o => o.objectClass.same oc && (s.overmatch || accepted query o)

/-- Offers the items in turn, until one is answered with no; then comes the end. -/
def offerAll {α β : Type} (ignoreStop : Bool) (last : β) : List α → Feed α β
  | [] => .finish last
  | a :: rest =>
    .offer a fun more => if more || ignoreStop then offerAll ignoreStop last rest else .finish last

def query (s : ConnectorScript) (oc : ObjectClass) (query : Option Filter) (r : Resource) :
    Feed ResourceObject (Except Stop Unit × Resource) :=
  match use s "query" r with
  | (.error why, r) => .finish (.error why, r)
  | (.ok (), r) => offerAll s.ignoreStop (use s "query_end" r) (found s oc query r)

/-- The changes after a token; one that is no natural number stands for the start. -/
def changesAfter (s : ConnectorScript) (token : Option Json) : List ChangeScript :=
  match token with
  | some (.integer i) => s.changes.drop i.toNat
  | _ => s.changes

def ofOtherClass (oc : ObjectClass) (d : SyncDelta) : Bool :=
  !oc.isAll && d.objectClass.any fun c => !c.same oc

/-- Builds and offers the changes in turn; one that cannot be built ends the feed. -/
def offerChanges (s : ConnectorScript) (oc : ObjectClass) (r : Resource) :
    List ChangeScript → Feed SyncDelta (Except Stop Unit × Resource)
  | [] => .finish (.ok (), r)
  | c :: rest =>
    match c.build with
    | .error e => .finish (.error (.error e), r)
    | .ok d =>
      if ofOtherClass oc d then offerChanges s oc r rest
      else .offer d fun more =>
        if more || s.ignoreStop then offerChanges s oc r rest else .finish (.ok (), r)

def sync (s : ConnectorScript) (oc : ObjectClass) (token : Option Json) (r : Resource) :
    Feed SyncDelta (Except Stop Unit × Resource) :=
  match use s "sync" r with
  | (.error why, r) => .finish (.error why, r)
  | (.ok (), r) => offerChanges s oc r (changesAfter s token)

end Resource

/-- A feed with its result changed. -/
def Feed.mapResult {α β γ : Type} (f : β → γ) : Feed α β → Feed α γ
  | .finish b => .finish (f b)
  | .offer a next => .offer a fun more => (next more).mapResult f

namespace ConnectorScript

/-- The resource at a place, an empty one where there is none. -/
def resourceAt (place : Nat) (rs : Resources) : Resource := rs[place]?.getD { objects := [] }

def put (place : Nat) (r : Resource) (rs : Resources) : Resources := rs.set place r

/-- A connector that can do nothing but start. -/
def bareConnector : Connector Resources Filter where
  provides _ _ rs := (false, rs)
  rule _ _ := none
  perform _ c := match c with
    | .init _ => (pure () : Action Resources Unit)
    | .dispose => (pure () : Action Resources Unit)
    | .checkAlive => (pure () : Action Resources Unit)
    | c => (Action.fail (.notSupported .validate) : Action Resources c.Reply)
  translate _ _ _ _ rs := ([], rs)
  query _ _ _ _ rs := .finish (.ok (), rs)
  sync _ _ _ _ rs := .finish (.ok (), rs)

/-- The connector of the script whose resource is at `place`. -/
def fullConnector (s : ConnectorScript) (place : Nat) : Connector Resources Filter where
  provides inst c rs :=
    let (b, r) := Resource.provides s inst c (resourceAt place rs)
    (b, put place r rs)
  rule _ _ := s.rules.map EditRule.normalRule
  perform _ c := .zoom (resourceAt place) (put place) (Resource.perform s c)
  translate _ _ _ f rs := (s.dialect.dialect.queries f, rs)
  query _ oc query _ rs :=
    (Resource.query s oc query (resourceAt place rs)).mapResult fun e =>
      (e.1, put place e.2 rs)
  sync _ oc token _ rs :=
    (Resource.sync s oc token (resourceAt place rs)).mapResult fun e =>
      (e.1, put place e.2 rs)

/-- A host must be given. -/
def checkHost (properties : Fields) : Except Error Unit :=
  match Document.lookup properties "host" with
  | some (.text host) =>
    if host.isEmpty then .error (.invalidConfiguration "host is required") else .ok ()
  | _ => .error (.invalidConfiguration "host is required")

def factory (s : ConnectorScript) (place : Nat) : Factory Resources Filter where
  tag := place
  key := s.key
  connector := if s.bare then bareConnector else s.fullConnector place
  check := if s.lenient then none else some checkHost

end ConnectorScript

end ConnectorHub
