import ConnectorHub.Normalizer

namespace ConnectorHub

inductive Edit where
  | lower
  | upper
  | rename (target : String)
  | clear
  | first
  | reverse
  | append (v : Value)

namespace Edit

def onText (f : String → String) : Value → Value
  | .text s => .text (f s)
  | v => v

def apply (e : Edit) (a : Attribute) : Attribute :=
  match e with
  | lower => { a with values := a.values.map (onText Text.fold) }
  | upper => { a with values := a.values.map (onText Text.raise) }
  | rename target => { a with name := target }
  | clear => { a with values := [] }
  | first => { a with values := a.values.take 1 }
  | reverse => { a with values := a.values.reverse }
  | append v => { a with values := a.values ++ [v] }

end Edit

/-- An edit with the attributes and the class it is for; without them it is for all. -/
structure EditRule where
  name : Option String := none
  objectClass : Option String := none
  edit : Edit

namespace EditRule

def applies (r : EditRule) (oc : ObjectClass) (a : Attribute) : Bool :=
  (r.name.all fun n => a.isNamed n) && (r.objectClass.all fun c => oc.isNamed c)

def apply (r : EditRule) (oc : ObjectClass) (a : Attribute) : Attribute :=
  if r.applies oc a then r.edit.apply a else a

/-- The rules one after the other. -/
def normalRule (rules : List EditRule) : NormalRule := fun oc a =>
  rules.foldl (fun a r => r.apply oc a) a

end EditRule

end ConnectorHub
