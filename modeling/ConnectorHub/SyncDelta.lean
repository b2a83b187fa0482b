import ConnectorHub.ResourceObject

namespace ConnectorHub

namespace SyncDelta

/-- The parts of a delta fit each other. -/
def Consistent (type : DeltaType) (previousUid : Option Uid) (uid : Uid)
    (object : Option ResourceObject) : Prop :=
  object.isSome = type.carriesObject ∧ (type = .delete → previousUid = none) ∧
    ∀ o, object = some o → o.uid = uid

end SyncDelta

/-- A change record of a sync. -/
structure SyncDelta where
  token : Json
  type : DeltaType
  previousUid : Option Uid
  objectClass : Option ObjectClass
  uid : Uid
  object : Option ResourceObject
  consistent : SyncDelta.Consistent type previousUid uid object
  deriving DecidableEq

/-- A delta in the making. -/
structure DeltaDraft where
  token : Json
  type : DeltaType
  previousUid : Option Uid := none
  objectClass : Option ObjectClass := none
  uid : Option Uid := none
  object : Option ResourceObject := none

namespace DeltaDraft

/-- Sets the object, and the uid and class from it. -/
def withObject (d : DeltaDraft) (o : ResourceObject) : DeltaDraft :=
  { d with uid := some o.uid, objectClass := some o.objectClass, object := some o }

/-- The draft with its uid as a delta, if that has the uid of the object it carries. -/
def matchUid (d : DeltaDraft) (uid : Uid) (hc : d.object.isSome = d.type.carriesObject)
    (hp : d.type = .delete → d.previousUid = none) : Except Error SyncDelta :=
  if h : ∀ o, d.object = some o → o.uid = uid then
    .ok ⟨d.token, d.type, d.previousUid, d.objectClass, uid, d.object, hc, hp, h⟩
  else .error (.invalidObject "sync delta uid does not match its object")

def build (d : DeltaDraft) : Except Error SyncDelta :=
  match d.uid with
  | none => .error (.invalidObject "sync delta has no uid")
  | some uid =>
    if hc : d.object.isSome = d.type.carriesObject then
      if hp : d.type = .delete → d.previousUid = none then d.matchUid uid hc hp
      else .error (.invalidObject "delete delta must not carry a previous uid")
    else if d.object.isSome then
      .error (.invalidObject "delete delta must not carry an object")
    else .error (.invalidObject (d.type.name ++ " delta must carry an object"))

end DeltaDraft

namespace SyncDelta

/-- The delta with its object changed, and the uid and class taken from the changed object. A delta
without an object stays as it is. -/
def mapObject (f : ResourceObject → ResourceObject) (d : SyncDelta) : SyncDelta :=
  match h : d.object with
  | none => d
  | some o =>
    { d with
      objectClass := some (f o).objectClass
      uid := (f o).uid
      object := some (f o)
      consistent := by
        obtain ⟨hc, hp, _⟩ := d.consistent
        rw [h] at hc
        exact ⟨hc, hp, fun p hp => by rw [Option.some.inj hp]⟩ }

end SyncDelta

end ConnectorHub
