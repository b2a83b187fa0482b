import ConnectorHub.Json.Document
import ConnectorHub.Operation
import ConnectorHub.Text.Name
import ConnectorHub.Value

namespace ConnectorHub

structure AttributeInfo where
  name : String
  dataType : DataType
  multiValued : Bool := false
  required : Bool := false
  readable : Bool := true
  creatable : Bool := true
  updateable : Bool := true
  returnedByDefault : Bool := true
  deriving DecidableEq

namespace AttributeInfo

def asMultiValued (a : AttributeInfo) : AttributeInfo := { a with multiValued := true }

def asRequired (a : AttributeInfo) : AttributeInfo := { a with required := true }

def asReadOnly (a : AttributeInfo) : AttributeInfo :=
  { a with creatable := false, updateable := false }

def asWriteOnly (a : AttributeInfo) : AttributeInfo :=
  { a with readable := false, returnedByDefault := false }

def notReturnedByDefault (a : AttributeInfo) : AttributeInfo :=
  { a with returnedByDefault := false }

/-- The mark of a name put on an attribute. -/
def mark? (a : AttributeInfo) : String → Option AttributeInfo
  | "multi_valued" => some a.asMultiValued
  | "required" => some a.asRequired
  | "read_only" => some a.asReadOnly
  | "write_only" => some a.asWriteOnly
  | "not_returned_by_default" => some a.notReturnedByDefault
  | _ => none

def ofDocument? (j : Json) : Option AttributeInfo := do
  let fields ← Document.fields? j
  let name ← Document.required fields "name" Document.text?
  let dataType ← Document.required fields "data_type" DataType.ofDocument?
  let multiValued ← Document.withDefault fields "multi_valued" false Document.bool?
  let required ← Document.withDefault fields "required" false Document.bool?
  let readable ← Document.withDefault fields "readable" true Document.bool?
  let creatable ← Document.withDefault fields "creatable" true Document.bool?
  let updateable ← Document.withDefault fields "updateable" true Document.bool?
  let returned ← Document.withDefault fields "returned_by_default" true Document.bool?
  pure ⟨name, dataType, multiValued, required, readable, creatable, updateable, returned⟩

def toDocument (a : AttributeInfo) : Json :=
  .ofFields [("name", .text a.name), ("data_type", a.dataType.toDocument),
    ("multi_valued", .bool a.multiValued), ("required", .bool a.required),
    ("readable", .bool a.readable), ("creatable", .bool a.creatable),
    ("updateable", .bool a.updateable), ("returned_by_default", .bool a.returnedByDefault)]

end AttributeInfo

structure ClassInfo where
  name : String
  container : Bool := false
  auxiliary : Bool := false
  attributes : List AttributeInfo := []
  deriving DecidableEq

namespace ClassInfo

def find? (c : ClassInfo) (name : String) : Option AttributeInfo :=
  c.attributes.find? fun a => Text.sameName a.name name

/-- The attributes that a create must give. -/
def requiredAttributes (c : ClassInfo) : List AttributeInfo :=
  c.attributes.filter AttributeInfo.required

/-- The attributes that a search returns when none are asked for. -/
def defaultAttributes (c : ClassInfo) : List AttributeInfo :=
  c.attributes.filter fun a => a.returnedByDefault && a.readable

def ofDocument? (j : Json) : Option ClassInfo := do
  let fields ← Document.fields? j
  let name ← Document.required fields "name" Document.text?
  let container ← Document.withDefault fields "container" false Document.bool?
  let auxiliary ← Document.withDefault fields "auxiliary" false Document.bool?
  let attributes ←
    Document.required fields "attributes" (Document.list? AttributeInfo.ofDocument?)
  pure ⟨name, container, auxiliary, attributes⟩

def toDocument (c : ClassInfo) : Json :=
  .ofFields [("name", .text c.name), ("container", .bool c.container),
    ("auxiliary", .bool c.auxiliary),
    ("attributes", .list (c.attributes.map AttributeInfo.toDocument))]

end ClassInfo

/-- For an operation in the table the classes it accepts. -/
abbrev SupportTable := Operation → Option (List String)

/-- What a connector reports: its object classes, their attributes, and for some operations the
classes they accept. -/
structure Schema where
  classes : List ClassInfo := []
  supported : SupportTable := fun _ => none

namespace Schema

def empty : Schema := {}

def withSupport (s : Schema) (o : Operation) (classes : List String) : Schema :=
  { s with supported := fun p => if p = o then some classes else s.supported p }

def find? (s : Schema) (name : String) : Option ClassInfo :=
  s.classes.find? fun c => Text.sameName c.name name

/-- An operation outside the table accepts every class. -/
def supports (s : Schema) (o : Operation) (objectClass : String) : Bool :=
  match s.supported o with
  | some classes => classes.any fun c => Text.sameName c objectClass
  | none => true

def classNames (s : Schema) : List String := s.classes.map ClassInfo.name

/-- The table as fields. -/
def supportFields (s : Schema) : Fields :=
  Operation.all.filterMap fun o => (s.supported o).map fun classes => (o.name, Json.texts classes)

def entry? (field : String × Json) : Option (Operation × List String) := do
  let o ← Operation.ofName? field.1
  let classes ← Document.list? Document.text? field.2
  pure (o, classes)

def supportTable? (j : Json) : Option SupportTable := do
  let fields ← Document.fields? j
  let entries ← fields.mapM entry?
  pure fun o => (entries.find? fun e => e.1 == o).map Prod.snd

def ofDocument? (j : Json) : Option Schema := do
  let fields ← Document.fields? j
  let classes ← Document.required fields "object_classes" (Document.list? ClassInfo.ofDocument?)
  let supported ←
    Document.withDefault fields "supported_by_operation" (fun _ => none) supportTable?
  pure ⟨classes, supported⟩

/-- An empty table is left out. -/
def toDocument (s : Schema) : Json :=
  let classes := ("object_classes", Json.list (s.classes.map ClassInfo.toDocument))
  let table := s.supportFields
  .ofFields (if table.isEmpty then [classes]
    else [classes, ("supported_by_operation", .ofFields table)])

def equals (s t : Schema) : Bool :=
  s.classes == t.classes && Operation.all.all fun o => s.supported o == t.supported o

end Schema

end ConnectorHub
