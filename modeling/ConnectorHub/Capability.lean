import ConnectorHub.Operation

namespace ConnectorHub

/-- The optional abilities of a connector. -/
inductive Capability where
  | create
  | delete
  | update
  | updateAttributeValues
  | search
  | sync
  | schema
  | test
  | authenticate
  | resolveUsername
  | scriptOnConnector
  | scriptOnResource
  deriving DecidableEq, Repr

namespace Capability

def all : List Capability :=
  [create, delete, update, updateAttributeValues, search, sync, schema, test, authenticate,
    resolveUsername, scriptOnConnector, scriptOnResource]

def name : Capability → String
  | create => "create"
  | delete => "delete"
  | update => "update"
  | updateAttributeValues => "update_attribute_values"
  | search => "search"
  | sync => "sync"
  | schema => "schema"
  | test => "test"
  | authenticate => "authenticate"
  | resolveUsername => "resolve_username"
  | scriptOnConnector => "script_on_connector"
  | scriptOnResource => "script_on_resource"

def ofName? (name : String) : Option Capability := all.find? fun c => c.name == name

/-- The place of the capability's bit in a set. -/
def bit : Capability → Nat
  | create => 0
  | delete => 1
  | update => 2
  | updateAttributeValues => 3
  | search => 4
  | sync => 5
  | schema => 6
  | test => 7
  | authenticate => 8
  | resolveUsername => 9
  | scriptOnConnector => 10
  | scriptOnResource => 11

/-- The operation that a lack of the capability makes unsupported. -/
def operation : Capability → Operation
  | create => .create
  | delete => .delete
  | update => .update
  | updateAttributeValues => .addAttributeValues
  | search => .search
  | sync => .sync
  | schema => .schema
  | test => .test
  | authenticate => .authenticate
  | resolveUsername => .resolveUsername
  | scriptOnConnector => .scriptOnConnector
  | scriptOnResource => .scriptOnResource

theorem bit_injective {c d : Capability} (h : c.bit = d.bit) : c = d := by
  cases c <;> cases d <;> first | rfl | exact absurd h (by decide)

end Capability

structure CapabilitySet where
  bits : Nat
  deriving DecidableEq, Repr

namespace CapabilitySet

def empty : CapabilitySet := ⟨0⟩

def insert (s : CapabilitySet) (c : Capability) : CapabilitySet := ⟨s.bits ||| 1 <<< c.bit⟩

def ofList (cs : List Capability) : CapabilitySet := cs.foldl insert empty

def contains (s : CapabilitySet) (c : Capability) : Bool := s.bits.testBit c.bit

def isEmpty (s : CapabilitySet) : Bool := s.bits == 0

def toList (s : CapabilitySet) : List Capability := Capability.all.filter s.contains

/-- Values are added and removed natively, or by a search and an update. -/
def supports (s : CapabilitySet) : Operation → Bool
  | .create => s.contains .create
  | .delete => s.contains .delete
  | .update => s.contains .update
  | .addAttributeValues | .removeAttributeValues =>
    s.contains .updateAttributeValues || (s.contains .update && s.contains .search)
  | .search | .get => s.contains .search
  | .sync | .getLatestSyncToken => s.contains .sync
  | .schema => s.contains .schema
  | .test => s.contains .test
  | .validate => true
  | .authenticate => s.contains .authenticate
  | .resolveUsername => s.contains .resolveUsername
  | .scriptOnConnector => s.contains .scriptOnConnector
  | .scriptOnResource => s.contains .scriptOnResource

def operations (s : CapabilitySet) : List Operation := Operation.all.filter s.supports

/-- The diagnostic form: the bits as a number. -/
def describe (s : CapabilitySet) : String :=
  "CapabilitySet \x7b bits: " ++ toString s.bits ++ " \x7d"

@[simp] theorem contains_insert (s : CapabilitySet) (c d : Capability) :
    (s.insert c).contains d = (s.contains d || c == d) := by
  simp only [contains, insert, Nat.testBit_or, Nat.one_shiftLeft, Nat.testBit_two_pow]
  congr 1
  by_cases h : c = d
  · simp [h]
  · have : c.bit ≠ d.bit := fun hb => h (Capability.bit_injective hb)
    simp [h, this]

@[simp] theorem contains_empty (c : Capability) : empty.contains c = false := by
  simp [contains, empty]

end CapabilitySet

end ConnectorHub
