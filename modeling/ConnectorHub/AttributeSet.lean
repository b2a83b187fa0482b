import ConnectorHub.Attribute
import ConnectorHub.Error.Basic
import ConnectorHub.Keyed

namespace ConnectorHub

/-- Attributes, one of each name, in increasing order of their folded names. -/
structure AttributeSet where
  toList : List Attribute
  increasing : Keyed.Increasing Attribute.key toList
  deriving DecidableEq

namespace AttributeSet

def empty : AttributeSet := ⟨[], Keyed.increasing_nil⟩

instance : Inhabited AttributeSet := ⟨empty⟩

/-- Adds an attribute, in place of the one of the same name. -/
def insert (s : AttributeSet) (a : Attribute) : AttributeSet :=
  ⟨Keyed.insert Attribute.key a s.toList, s.increasing.insert a⟩

def insertAll (s : AttributeSet) (as : List Attribute) : AttributeSet := as.foldl insert s

/-- Of several attributes of one name the last stays. -/
def ofList (as : List Attribute) : AttributeSet := empty.insertAll as

def get? (s : AttributeSet) (name : String) : Option Attribute :=
  Keyed.find? Attribute.key (Text.fold name) s.toList

def contains (s : AttributeSet) (name : String) : Bool := (s.get? name).isSome

def erase (s : AttributeSet) (name : String) : AttributeSet :=
  ⟨Keyed.erase Attribute.key (Text.fold name) s.toList, s.increasing.erase _⟩

def size (s : AttributeSet) : Nat := s.toList.length

def isEmpty (s : AttributeSet) : Bool := s.toList.isEmpty

def names (s : AttributeSet) : List String := s.toList.map Attribute.name

/-- Adds the attributes one by one and stops at the first whose name is taken. -/
def addDistinct (s : AttributeSet) : List Attribute → Except Error AttributeSet
  | [] => .ok s
  | a :: rest =>
    if s.contains a.name then .error (.duplicateAttribute a.name)
    else (s.insert a).addDistinct rest

/-- The set of attributes of pairwise different names. -/
def ofDistinct (as : List Attribute) : Except Error AttributeSet := empty.addDistinct as

/-- Each attribute changed by `f`; where two come to one name the later stays. -/
def map (f : Attribute → Attribute) (s : AttributeSet) : AttributeSet := ofList (s.toList.map f)

def filterMap (f : Attribute → Option Attribute) (s : AttributeSet) : AttributeSet :=
  ofList (s.toList.filterMap f)

/-- The attributes of the given names. -/
def select (s : AttributeSet) (names : List String) : AttributeSet :=
  ofList (names.filterMap s.get?)

/-- Attribute by attribute equality. -/
def equals (s t : AttributeSet) : Bool :=
  s.size == t.size && (s.toList.zip t.toList).all fun p => p.1.equals p.2

/-- The uid that the set carries in well-formed shape. -/
def uid? (s : AttributeSet) : Option Uid := (s.get? Attribute.uidName).bind Uid.ofAttribute?

end AttributeSet

end ConnectorHub
