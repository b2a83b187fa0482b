import ConnectorHub.Json.Basic
import ConnectorHub.Text.Hex
import ConnectorHub.Text.Quoted

namespace ConnectorHub

/-- The key of a connector's implementation. -/
structure ConnectorKey where
  bundleName : String
  bundleVersion : String
  connectorName : String
  deriving DecidableEq, Repr

namespace ConnectorKey

def display (k : ConnectorKey) : String :=
  k.bundleName ++ ":" ++ k.bundleVersion ++ ":" ++ k.connectorName

/-- Bundle, version, name: the first that differs decides. -/
def order (a b : ConnectorKey) : Ordering :=
  ((compare a.bundleName b.bundleName).then (compare a.bundleVersion b.bundleVersion)).then
    (compare a.connectorName b.connectorName)

def toDocument (k : ConnectorKey) : Json :=
  .ofFields [("bundle_name", .text k.bundleName), ("bundle_version", .text k.bundleVersion),
    ("connector_name", .text k.connectorName)]

/-- The diagnostic form, field by field. -/
def describe (k : ConnectorKey) : String :=
  "ConnectorKey \x7b bundle_name: " ++ Text.quoted k.bundleName ++ ", bundle_version: " ++
    Text.quoted k.bundleVersion ++ ", connector_name: " ++ Text.quoted k.connectorName ++ " \x7d"

end ConnectorKey

/-- A UUID, written as 32 hexadecimal digits in five groups. -/
structure FacadeId where
  value : BitVec 128
  deriving DecidableEq

namespace FacadeId

/-- The places of the hyphens in the written form. -/
def hyphens : List Nat := [8, 13, 18, 23]

def ofText? (s : String) : Option FacadeId :=
  let cs := s.toList
  let placed := cs.zipIdx
  if cs.length = 36 ∧ (placed.all fun p => (p.1 == '-') == hyphens.contains p.2) then
    (Hex.nat? (cs.filter fun c => c != '-')).map fun n => ⟨BitVec.ofNat 128 n⟩
  else none

def ofDocument? : Json → Option FacadeId
  | .text s => ofText? s
  | _ => none

/-- The `n`-th hexadecimal digit, the most significant first. -/
def digit (id : FacadeId) (n : Nat) : Char := Nat.digitChar (id.value.toNat >>> (4 * (31 - n)) % 16)

def group (id : FacadeId) (start length : Nat) : List Char :=
  (List.range' start length).map id.digit

def display (id : FacadeId) : String :=
  String.ofList (id.group 0 8 ++ '-' :: (id.group 8 4 ++ '-' :: (id.group 12 4 ++
    '-' :: (id.group 16 4 ++ '-' :: id.group 20 12))))

end FacadeId

end ConnectorHub
