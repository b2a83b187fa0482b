import ConnectorHub.Json.Document
import ConnectorHub.Text.Lowercase

namespace ConnectorHub

/-- What a caller can ask for. -/
inductive Operation where
  | create
  | delete
  | update
  | addAttributeValues
  | removeAttributeValues
  | search
  | get
  | sync
  | getLatestSyncToken
  | schema
  | test
  | validate
  | authenticate
  | resolveUsername
  | scriptOnConnector
  | scriptOnResource
  deriving DecidableEq, Repr

namespace Operation

def all : List Operation :=
  [create, delete, update, addAttributeValues, removeAttributeValues, search, get, sync,
    getLatestSyncToken, schema, test, validate, authenticate, resolveUsername, scriptOnConnector,
    scriptOnResource]

def name : Operation → String
  | create => "create"
  | delete => "delete"
  | update => "update"
  | addAttributeValues => "add_attribute_values"
  | removeAttributeValues => "remove_attribute_values"
  | search => "search"
  | get => "get"
  | sync => "sync"
  | getLatestSyncToken => "get_latest_sync_token"
  | schema => "schema"
  | test => "test"
  | validate => "validate"
  | authenticate => "authenticate"
  | resolveUsername => "resolve_username"
  | scriptOnConnector => "script_on_connector"
  | scriptOnResource => "script_on_resource"

/-- Whether the class that stands for every class may be asked for. -/
def acceptsAllClasses (o : Operation) : Bool := o == sync || o == getLatestSyncToken

def ofName? (name : String) : Option Operation := all.find? fun o => o.name == name

/-- Reads a name in any case. -/
def parse? (s : String) : Option Operation := ofName? (Text.lowercase s)

/-- The message for a text that names no operation. -/
def parseMessage (s : String) : String := "invalid operation '" ++ s ++ "'"

def ofDocument? (j : Json) : Option Operation := (Document.choice? j).bind ofName?

def toDocument (o : Operation) : Json := .text o.name

theorem mem_all (o : Operation) : o ∈ all := by cases o <;> decide

theorem ofName?_name (o : Operation) : ofName? o.name = some o := by cases o <;> decide

end Operation

/-- The kind of change a sync delta reports. -/
inductive DeltaType where
  | createOrUpdate
  | create
  | update
  | delete
  deriving DecidableEq, Repr

namespace DeltaType

def all : List DeltaType := [createOrUpdate, create, update, delete]

def name : DeltaType → String
  | createOrUpdate => "create_or_update"
  | create => "create"
  | update => "update"
  | delete => "delete"

def carriesObject (t : DeltaType) : Bool := t != delete

def ofName? (name : String) : Option DeltaType := all.find? fun t => t.name == name

def ofDocument? (j : Json) : Option DeltaType := (Document.choice? j).bind ofName?

def toDocument (t : DeltaType) : Json := .text t.name

end DeltaType

/-- How deep below its container a search goes. -/
inductive SearchScope where
  | object
  | oneLevel
  | subtree
  deriving DecidableEq, Repr

namespace SearchScope

def standard : SearchScope := subtree

def all : List SearchScope := [object, oneLevel, subtree]

def name : SearchScope → String
  | object => "object"
  | oneLevel => "one_level"
  | subtree => "subtree"

def ofName? (name : String) : Option SearchScope := all.find? fun s => s.name == name

def ofDocument? (j : Json) : Option SearchScope := (Document.choice? j).bind ofName?

def toDocument (s : SearchScope) : Json := .text s.name

end SearchScope

end ConnectorHub
