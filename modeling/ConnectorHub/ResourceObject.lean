import ConnectorHub.AttributeSet
import ConnectorHub.ObjectClass

namespace ConnectorHub

/-- An object on a resource. Its attributes always carry its uid. -/
structure ResourceObject where
  objectClass : ObjectClass
  uid : Uid
  attributes : AttributeSet
  carries_uid : attributes.uid? = some uid
  deriving DecidableEq

namespace ResourceObject

/-- An object of the given attributes, which must hold a well-formed uid. -/
def build (objectClass : ObjectClass) (attributes : AttributeSet) : Except Error ResourceObject :=
  match h : attributes.uid? with
  | some uid => .ok ⟨objectClass, uid, attributes, h⟩
  | none =>
    if attributes.contains Attribute.uidName then
      .error (.invalidObject "uid must carry exactly one string value")
    else .error (.invalidObject "connector object has no uid")

def get? (o : ResourceObject) (name : String) : Option Attribute := o.attributes.get? name

/-- The name, if the object has a single one and it is a text. -/
def name? (o : ResourceObject) : Option String :=
  (o.get? Attribute.nameName).bind fun a => a.single?.bind Value.text?

def equals (o p : ResourceObject) : Bool :=
  o.objectClass.same p.objectClass && o.uid == p.uid && o.attributes.equals p.attributes

end ResourceObject

/-- One step of building an object. -/
inductive BuildStep where
  | uid (value : String)
  | name (value : String)
  | one (a : Attribute)
  | several (as : List Attribute)

def BuildStep.attributes : BuildStep → List Attribute
  | uid v => [(⟨v⟩ : Uid).toAttribute]
  | name v => [.single Attribute.nameName (.text v)]
  | one a => [a]
  | several as => as

/-- Takes the steps in turn, a later attribute replacing an earlier one of its name. -/
def ResourceObject.ofSteps (objectClass : ObjectClass) (steps : List BuildStep) :
    Except Error ResourceObject :=
  ResourceObject.build objectClass (.ofList (steps.flatMap BuildStep.attributes))

namespace AttributeSet

theorem uid?_insert_toAttribute (s : AttributeSet) (u : Uid) :
    (s.insert u.toAttribute).uid? = some u := by
  have key : ∀ xs : List Attribute,
      Keyed.find? Attribute.key (Text.fold Attribute.uidName)
        (Keyed.insert Attribute.key u.toAttribute xs) = some u.toAttribute := by
    intro xs
    have hu : u.toAttribute.key = Text.fold Attribute.uidName := rfl
    induction xs with
    | nil => simp [Keyed.insert, Keyed.find?, hu]
    | cons b rest ih =>
      simp only [Keyed.insert]
      split
      · simp [Keyed.find?, hu]
      · split
        · next hlt =>
          have hne : (b.key == Text.fold Attribute.uidName) = false := by
            rw [beq_eq_false_iff_ne]
            intro he
            rw [hu, he] at hlt
            exact String.lt_irrefl _ hlt
          simpa [Keyed.find?, List.find?_cons, hne] using ih
        · simp [Keyed.find?, hu]
  simp [uid?, get?, insert, key]

end AttributeSet

namespace ResourceObject

/-- The object with these attributes instead. If they carry no well-formed uid, the object's own is
put into them. -/
def withAttributes (o : ResourceObject) (attributes : AttributeSet) : ResourceObject :=
  match h : attributes.uid? with
  | some uid => ⟨o.objectClass, uid, attributes, h⟩
  | none =>
    ⟨o.objectClass, o.uid, attributes.insert o.uid.toAttribute,
      AttributeSet.uid?_insert_toAttribute attributes o.uid⟩

def mapAttributes (f : AttributeSet → AttributeSet) (o : ResourceObject) : ResourceObject :=
  o.withAttributes (f o.attributes)

/-- Only the attributes of the given names, and the uid. -/
def project (names : List String) (o : ResourceObject) : ResourceObject :=
  o.mapAttributes fun s => s.select names

end ResourceObject

end ConnectorHub
