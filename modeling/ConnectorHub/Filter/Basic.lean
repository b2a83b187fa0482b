import ConnectorHub.Attribute

namespace ConnectorHub

/-- The ways an attribute is compared with the attribute of a test. -/
inductive Comparison where
  | equals
  | equalsIgnoreCase
  | greaterThan
  | greaterThanOrEqual
  | lessThan
  | lessThanOrEqual
  | contains
  | startsWith
  | endsWith
  | containsAllValues
  deriving DecidableEq, Repr

namespace Comparison

def all : List Comparison :=
  [equals, equalsIgnoreCase, greaterThan, greaterThanOrEqual, lessThan, lessThanOrEqual, contains,
    startsWith, endsWith, containsAllValues]

def name : Comparison → String
  | equals => "equals"
  | equalsIgnoreCase => "equals_ignore_case"
  | greaterThan => "greater_than"
  | greaterThanOrEqual => "greater_than_or_equal"
  | lessThan => "less_than"
  | lessThanOrEqual => "less_than_or_equal"
  | contains => "contains"
  | startsWith => "starts_with"
  | endsWith => "ends_with"
  | containsAllValues => "contains_all_values"

def ofName? (name : String) : Option Comparison := all.find? fun c => c.name == name

end Comparison

/-- A test of one attribute of an object. -/
inductive AttributeTest where
  | compare (c : Comparison) (a : Attribute)
  | present (name : String)
  deriving DecidableEq

namespace AttributeTest

def name : AttributeTest → String
  | compare _ a => a.name
  | present name => name

/-- The name of the kind of test. -/
def kind : AttributeTest → String
  | compare c _ => c.name
  | present _ => "present"

end AttributeTest

inductive Filter where
  | test (t : AttributeTest)
  | and (filters : List Filter)
  | or (filters : List Filter)
  | not (filter : Filter)

namespace Filter

instance : Inhabited Filter := ⟨.and []⟩

def compare (c : Comparison) (a : Attribute) : Filter := .test (.compare c a)

def present (name : String) : Filter := .test (.present name)

/-- The test of one attribute against one value. -/
def value (c : Comparison) (name : String) (v : Value) : Filter := compare c (.single name v)

/-- The objects of this uid. -/
def uidEquals (u : Uid) : Filter := compare .equals u.toAttribute

/-- Conjunction; one that `f` is already takes `g` as a further part. -/
def andWith (f g : Filter) : Filter :=
  match f with
  | .and fs => .and (fs ++ [g])
  | _ => .and [f, g]

/-- Disjunction; one that `f` is already takes `g` as a further part. -/
def orWith (f g : Filter) : Filter :=
  match f with
  | .or fs => .or (fs ++ [g])
  | _ => .or [f, g]

/-- The attribute that a comparison carries. -/
def attribute? : Filter → Option Attribute
  | .test (.compare _ a) => some a
  | _ => none

mutual

/-- The filter with the attribute of every comparison changed by `f`. -/
def mapAttributes (f : Attribute → Attribute) : Filter → Filter
  | .test (.compare c a) => .test (.compare c (f a))
  | .test (.present name) => .test (.present name)
  | .and fs => .and (mapAttributesAll f fs)
  | .or fs => .or (mapAttributesAll f fs)
  | .not g => .not (mapAttributes f g)

def mapAttributesAll (f : Attribute → Attribute) : List Filter → List Filter
  | [] => []
  | g :: gs => mapAttributes f g :: mapAttributesAll f gs

end

theorem mapAttributesAll_eq_map (f : Attribute → Attribute) (gs : List Filter) :
    mapAttributesAll f gs = gs.map (mapAttributes f) := by
  induction gs with
  | nil => rfl
  | cons g gs ih => simp [mapAttributesAll, ih]

end Filter

end ConnectorHub
