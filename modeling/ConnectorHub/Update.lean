import ConnectorHub.ReservedNames
import ConnectorHub.Search

namespace ConnectorHub

/-- Which way an incremental update changes values. -/
inductive ValueChange where
  | add
  | remove
  deriving DecidableEq, Repr

namespace ValueChange

def operation : ValueChange → Operation
  | add => .addAttributeValues
  | remove => .removeAttributeValues

/-- The object's values followed by the added ones. -/
def addTo (current : ResourceObject) (added : Attribute) : Attribute :=
  match current.get? added.name with
  | some existing => ⟨existing.name, existing.values ++ added.values⟩
  | none => added

/-- The object's values without the removed ones, if it has the attribute. -/
def removeFrom (current : ResourceObject) (removed : Attribute) : Option Attribute :=
  (current.get? removed.name).map fun existing =>
    ⟨existing.name, existing.values.filter fun v => !v.isIn removed.values⟩

/-- What replaces the fetched values. -/
def merge (c : ValueChange) (current : ResourceObject) (delta : AttributeSet) : AttributeSet :=
  match c with
  | add => delta.map (addTo current)
  | remove => delta.filterMap (removeFrom current)

end ValueChange

/-- Whether an operation changes single values. -/
def Operation.changesValues (o : Operation) : Bool :=
  o == addAttributeValues || o == removeAttributeValues

/-- No update carries the uid, and none that changes single values carries a reserved name. -/
def checkDelta (o : Operation) (delta : AttributeSet) (reserved : ReservedNames) :
    Except Error Unit :=
  if delta.contains Attribute.uidName then
    .error (.invalidDelta Attribute.uidName "the uid cannot be part of an update delta")
  else if o.changesValues then
    match delta.names.find? reserved.contains with
    | some name =>
      .error (.invalidDelta name ("reserved attribute cannot be used with " ++ o.name))
    | none => .ok ()
  else .ok ()

namespace Instance

variable {σ κ : Type}

/-- The uid that a call answers with, normalized. -/
def uidOf (i : Instance σ κ) (oc : ObjectClass) (x : Action (Site σ κ) Uid) :
    Action (Site σ κ) Uid := do
  let uid ← x
  pure ((i.normalizer oc).onUid uid)

theorem uidOf_apply (i : Instance σ κ) (oc : ObjectClass) (x : Action (Site σ κ) Uid)
    (s : Site σ κ) : i.uidOf oc x s = ((x s).1.map (i.normalizer oc).onUid, (x s).2) := by
  rw [uidOf, Action.bind_apply]
  cases x s with
  | mk result t => cases result <;> rfl

def update (i : Instance σ κ) (reserved : ReservedNames) (oc : ObjectClass) (uid : Uid)
    (delta : AttributeSet) (options : Options) : Action (Site σ κ) Uid := do
  Action.ofExcept (checkDelta .update delta reserved)
  i.require .update
  let n := i.normalizer oc
  i.uidOf oc (i.call (.update oc (n.onUid uid) (n.onAttributes delta) options))

/-- The native call; its reply is a uid whichever way values change. -/
def changeNatively (i : Instance σ κ) (change : ValueChange) (oc : ObjectClass) (uid : Uid)
    (delta : AttributeSet) (options : Options) : Action (Site σ κ) Uid :=
  match change with
  | .add => i.call (.addValues oc uid delta options)
  | .remove => i.call (.removeValues oc uid delta options)

/-- Fetch, merge, replace. -/
def emulate (i : Instance σ κ) (reserved : ReservedNames) (change : ValueChange) (oc : ObjectClass)
    (uid : Uid) (delta : AttributeSet) (options : Options) : Action (Site σ κ) Uid := do
  Site.note (.emulatingUpdate oc uid change.operation delta.size)
  let current ← i.getObject oc uid { options with attributesToGet := some delta.names }
  match current with
  | none => Action.fail (.unknownUid oc.name uid.value)
  | some current => i.update reserved oc uid (change.merge current delta) options

def changeValues (i : Instance σ κ) (reserved : ReservedNames) (change : ValueChange)
    (oc : ObjectClass) (uid : Uid) (delta : AttributeSet) (options : Options) :
    Action (Site σ κ) Uid := do
  Action.ofExcept (checkDelta change.operation delta reserved)
  let n := i.normalizer oc
  let uid := n.onUid uid
  let delta := n.onAttributes delta
  if ← i.changesValues then i.uidOf oc (i.changeNatively change oc uid delta options)
  else if i.capabilities.supports change.operation then
    i.emulate reserved change oc uid delta options
  else Action.fail (.notSupported change.operation)

end Instance

end ConnectorHub
