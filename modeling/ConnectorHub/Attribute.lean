import ConnectorHub.Text.Name
import ConnectorHub.Value

namespace ConnectorHub

/-- A name with a list of values, which may be empty. -/
structure Attribute where
  name : String
  values : List Value
  deriving DecidableEq

namespace Attribute

def uidName : String := "__UID__"

def nameName : String := "__NAME__"

def single (name : String) (value : Value) : Attribute := ⟨name, [value]⟩

def key (a : Attribute) : String := Text.fold a.name

def isNamed (a : Attribute) (name : String) : Bool := Text.sameName a.name name

def isUid (a : Attribute) : Bool := a.isNamed uidName

def isName (a : Attribute) : Bool := a.isNamed nameName

/-- The only value, if there is exactly one. -/
def single? (a : Attribute) : Option Value :=
  match a.values with
  | [v] => some v
  | _ => none

/-- Equality of attributes: the name letter for letter, the values place by place. -/
def equals (a b : Attribute) : Bool := a.name == b.name && Value.listEquals a.values b.values

theorem isNamed_iff {a : Attribute} {name : String} :
    a.isNamed name = true ↔ a.key = Text.fold name :=
  Text.sameName_iff

end Attribute

structure Uid where
  value : String
  deriving DecidableEq, Repr

namespace Uid

def order (a b : Uid) : Ordering := compare a.value b.value

def toAttribute (u : Uid) : Attribute := .single Attribute.uidName (.text u.value)

def ofAttribute? (a : Attribute) : Option Uid :=
  if a.isUid then
    match a.values with
    | [.text s] => some ⟨s⟩
    | _ => none
  else none

theorem value_inj {u v : Uid} : u.value = v.value ↔ u = v := by
  cases u
  cases v
  simp

@[simp] theorem isUid_toAttribute (u : Uid) : u.toAttribute.isUid = true :=
  Text.sameName_self _

@[simp] theorem ofAttribute?_toAttribute (u : Uid) : ofAttribute? u.toAttribute = some u := by
  simp only [ofAttribute?, isUid_toAttribute, if_true]
  rfl

end Uid

end ConnectorHub
