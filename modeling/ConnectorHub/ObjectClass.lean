import ConnectorHub.Text.Name

namespace ConnectorHub

/-- A kind of managed objects, such as accounts and groups. -/
structure ObjectClass where
  name : String
  deriving DecidableEq, Repr

namespace ObjectClass

def account : ObjectClass := ⟨"__ACCOUNT__"⟩

def group : ObjectClass := ⟨"__GROUP__"⟩

/-- The name that stands for every class. -/
def allName : String := "__ALL__"

def all : ObjectClass := ⟨allName⟩

/-- The one spelling by which classes are told apart. -/
def key (c : ObjectClass) : String := Text.fold c.name

def isNamed (c : ObjectClass) (name : String) : Bool := Text.sameName c.name name

def same (c d : ObjectClass) : Bool := c.isNamed d.name

def isAll (c : ObjectClass) : Bool := c.isNamed allName

end ObjectClass

end ConnectorHub
