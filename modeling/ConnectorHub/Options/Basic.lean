import ConnectorHub.Attribute
import ConnectorHub.ObjectClass
import ConnectorHub.Operation

namespace ConnectorHub

/-- A uid with its class, the container of a search. -/
structure QualifiedUid where
  objectClass : ObjectClass
  uid : Uid
  deriving DecidableEq

structure SortKey where
  field : String
  ascending : Bool
  deriving DecidableEq

/-- Optional modifiers of an operation. A call without options has the empty ones. -/
structure Options where
  attributesToGet : Option (List String) := none
  scope : Option SearchScope := none
  container : Option QualifiedUid := none
  runAsUser : Option String := none
  runWithPassword : Option Secret := none
  pageSize : Option UInt32 := none
  pagedResultsCookie : Option String := none
  pagedResultsOffset : Option UInt32 := none
  sortKeys : List SortKey := []
  allowPartialResults : Option Bool := none
  returnDefaultAttributes : Option Bool := none
  deriving DecidableEq

namespace Options

def empty : Options := {}

instance : Inhabited Options := ⟨empty⟩

/-- The options with their container's class in its one spelling. -/
def folded (o : Options) : Options :=
  { o with container := o.container.map fun c => { c with objectClass := ⟨c.objectClass.key⟩ } }

def equals (o p : Options) : Bool := o.folded == p.folded

def isEmpty (o : Options) : Bool := o.equals empty

end Options

/-- A change of one option. -/
inductive OptionStep where
  | attributesToGet (names : List String)
  | scope (s : SearchScope)
  | container (c : QualifiedUid)
  | runAsUser (user : String)
  | runWithPassword (password : Secret)
  | pageSize (n : UInt32)
  | pagedResultsCookie (cookie : String)
  | pagedResultsOffset (n : UInt32)
  | sortKey (k : SortKey)
  | allowPartialResults (b : Bool)
  | returnDefaultAttributes (b : Bool)

/-- Sort keys add up, every other option replaces its former value. -/
def Options.apply (o : Options) : OptionStep → Options
  | .attributesToGet names => { o with attributesToGet := some names }
  | .scope s => { o with scope := some s }
  | .container c => { o with container := some c }
  | .runAsUser user => { o with runAsUser := some user }
  | .runWithPassword password => { o with runWithPassword := some password }
  | .pageSize n => { o with pageSize := some n }
  | .pagedResultsCookie cookie => { o with pagedResultsCookie := some cookie }
  | .pagedResultsOffset n => { o with pagedResultsOffset := some n }
  | .sortKey k => { o with sortKeys := o.sortKeys ++ [k] }
  | .allowPartialResults b => { o with allowPartialResults := some b }
  | .returnDefaultAttributes b => { o with returnDefaultAttributes := some b }

end ConnectorHub
