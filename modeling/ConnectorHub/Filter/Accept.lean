import ConnectorHub.Filter.Basic
import ConnectorHub.ResourceObject
import ConnectorHub.Text.Match

namespace ConnectorHub

namespace Value

def equalsIgnoreCase : Value → Value → Bool
  | text a, text b => Text.sameName a b
  | a, b => a.equals b

def listEqualsIgnoreCase : List Value → List Value → Bool
  | [], [] => true
  | a :: as, b :: bs => a.equalsIgnoreCase b && listEqualsIgnoreCase as bs
  | _, _ => false

end Value

namespace Comparison

/-- Some value stands to `expected` in an order that `ok` takes. -/
def anyOrdered (ok : Ordering → Bool) (expected : Attribute) (values : List Value) : Bool :=
  match expected.single? with
  | some e => values.any fun v => (v.order? e).any ok
  | none => false

/-- Some value is a text that `ok` takes with the expected text. -/
def anyText (ok : String → String → Bool) (expected : Attribute) (values : List Value) : Bool :=
  match expected.single?.bind Value.text? with
  | some e => values.any fun v => v.text?.any fun s => ok s e
  | none => false

def holds (c : Comparison) (expected : Attribute) (values : List Value) : Bool :=
  match c with
  | equals => Value.listEquals values expected.values
  | equalsIgnoreCase => Value.listEqualsIgnoreCase values expected.values
  | greaterThan => anyOrdered (fun o => o == .gt) expected values
  | greaterThanOrEqual => anyOrdered (fun o => o != .lt) expected values
  | lessThan => anyOrdered (fun o => o == .lt) expected values
  | lessThanOrEqual => anyOrdered (fun o => o != .gt) expected values
  | contains => anyText Text.hasPart expected values
  | startsWith => anyText Text.hasStart expected values
  | endsWith => anyText Text.hasEnd expected values
  | containsAllValues => expected.values.all fun e => e.isIn values

end Comparison

/-- The object has the attribute, and its values satisfy the test. -/
def AttributeTest.accepts (t : AttributeTest) (o : ResourceObject) : Bool :=
  match t with
  | compare c expected => (o.get? expected.name).any fun a => c.holds expected a.values
  | present name => (o.get? name).any fun a => !a.values.isEmpty

namespace Filter

mutual

def accepts : Filter → ResourceObject → Bool
  | .test t, o => t.accepts o
  | .and fs, o => acceptsAll fs o
  | .or fs, o => acceptsAny fs o
  | .not f, o => !accepts f o

def acceptsAll : List Filter → ResourceObject → Bool
  | [], _ => true
  | f :: fs, o => accepts f o && acceptsAll fs o

def acceptsAny : List Filter → ResourceObject → Bool
  | [], _ => false
  | f :: fs, o => accepts f o || acceptsAny fs o

end

theorem acceptsAll_eq_all (fs : List Filter) (o : ResourceObject) :
    acceptsAll fs o = fs.all fun f => f.accepts o := by
  induction fs with
  | nil => rfl
  | cons f fs ih => simp [acceptsAll, ih]

theorem acceptsAny_eq_any (fs : List Filter) (o : ResourceObject) :
    acceptsAny fs o = fs.any fun f => f.accepts o := by
  induction fs with
  | nil => rfl
  | cons f fs ih => simp [acceptsAny, ih]

end Filter

end ConnectorHub
