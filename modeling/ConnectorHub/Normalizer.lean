import ConnectorHub.Filter.Basic
import ConnectorHub.SyncDelta

namespace ConnectorHub

/-- How a connector brings an attribute of a class into its normal form. -/
abbrev NormalRule := ObjectClass → Attribute → Attribute

/-- Works for one object class; without a rule it changes nothing. -/
structure Normalizer where
  objectClass : ObjectClass
  rule : Option NormalRule

namespace Normalizer

def onAttribute (n : Normalizer) (a : Attribute) : Attribute :=
  match n.rule with
  | some rule => rule n.objectClass a
  | none => a

def onAttributes (n : Normalizer) (s : AttributeSet) : AttributeSet :=
  match n.rule with
  | some _ => s.map n.onAttribute
  | none => s

/-- The uid by way of its attribute; one whose attribute would carry no uid any more stays. -/
def onUid (n : Normalizer) (u : Uid) : Uid :=
  match n.rule with
  | some _ => (Uid.ofAttribute? (n.onAttribute u.toAttribute)).getD u
  | none => u

def onObject (n : Normalizer) (o : ResourceObject) : ResourceObject :=
  match n.rule with
  | some _ => o.mapAttributes n.onAttributes
  | none => o

def onFilter (n : Normalizer) (f : Filter) : Filter :=
  match n.rule with
  | some _ => f.mapAttributes n.onAttribute
  | none => f

def onDelta (n : Normalizer) (d : SyncDelta) : SyncDelta :=
  match n.rule with
  | some _ => d.mapObject n.onObject
  | none => d

end Normalizer

end ConnectorHub
