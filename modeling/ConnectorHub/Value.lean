import ConnectorHub.Json.Document

namespace ConnectorHub

/-- A text that must not be shown. -/
structure Secret where
  clear : String
  deriving DecidableEq

/-- What is shown instead of any secret. -/
def Secret.masked (_ : Secret) : String := "GuardedString(***REDACTED***)"

def Secret.isEmpty (s : Secret) : Bool := s.clear.isEmpty

/-- A point in time: whole seconds and the nanoseconds after them. -/
structure Instant where
  seconds : Int
  nanos : Nat
  deriving DecidableEq, Repr

def Instant.order (a b : Instant) : Ordering :=
  (compare a.seconds b.seconds).then (compare a.nanos b.nanos)

inductive DataType where
  | string
  | integer
  | float
  | boolean
  | binary
  | datetime
  | guarded
  | object
  deriving DecidableEq, Repr

namespace DataType

def all : List DataType := [string, integer, float, boolean, binary, datetime, guarded, object]

def name : DataType → String
  | string => "string"
  | integer => "integer"
  | float => "float"
  | boolean => "boolean"
  | binary => "binary"
  | datetime => "datetime"
  | guarded => "guarded"
  | object => "object"

def ofName? (name : String) : Option DataType := all.find? fun t => t.name == name

def ofDocument? (j : Json) : Option DataType := (Document.choice? j).bind ofName?

def toDocument (t : DataType) : Json := .text t.name

theorem ofName?_name (t : DataType) : ofName? t.name = some t := by cases t <;> decide

end DataType

inductive Value where
  | text (s : String)
  | integer (i : Int)
  | real (x : Binary64)
  | boolean (b : Bool)
  | binary (bytes : List UInt8)
  | instant (t : Instant)
  | secret (s : Secret)
  | document (fields : List (String × Json))
  deriving DecidableEq

namespace Value

def dataType : Value → DataType
  | text _ => .string
  | integer _ => .integer
  | real _ => .float
  | boolean _ => .boolean
  | binary _ => .binary
  | instant _ => .datetime
  | secret _ => .guarded
  | document _ => .object

def text? : Value → Option String
  | text s => some s
  | _ => none

def integer? : Value → Option Int
  | integer i => some i
  | _ => none

def boolean? : Value → Option Bool
  | boolean b => some b
  | _ => none

/-- Equality of values. Values of different kinds differ; a NaN differs from itself. -/
def equals : Value → Value → Bool
  | text a, text b => a == b
  | integer a, integer b => a == b
  | real a, real b => a.equals b
  | boolean a, boolean b => a == b
  | binary a, binary b => a == b
  | instant a, instant b => a == b
  | secret a, secret b => a == b
  | document a, document b => Json.agreeFields Binary64.equals a b
  | _, _ => false

def order? : Value → Value → Option Ordering
  | text a, text b => some (compare a b)
  | integer a, integer b => some (compare a b)
  | real a, real b => a.compare? b
  | integer a, real b => (Binary64.ofInt a).compare? b
  | real a, integer b => a.compare? (Binary64.ofInt b)
  | boolean a, boolean b => some (compare a b)
  | binary a, binary b => some (compare a b)
  | instant a, instant b => some (a.order b)
  | _, _ => none

/-- Equality of value lists, place by place. -/
def listEquals : List Value → List Value → Bool
  | [], [] => true
  | a :: as, b :: bs => a.equals b && listEquals as bs
  | _, _ => false

/-- Some value of the list equals `v`. -/
def isIn (v : Value) (vs : List Value) : Bool := vs.any fun u => u.equals v

end Value

end ConnectorHub
