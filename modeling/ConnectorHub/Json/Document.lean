import ConnectorHub.Json.Basic

namespace ConnectorHub

/-- The fields of a JSON object. -/
abbrev Fields := List (String × Json)

namespace Document

def bool? : Json → Option Bool
  | .bool b => some b
  | _ => none

def text? : Json → Option String
  | .text s => some s
  | _ => none

/-- The name of a choice: a text, or an object whose one field has that name and is null. -/
def choice? : Json → Option String
  | .text s => some s
  | .object [(name, .null)] => some name
  | _ => none

def fields? : Json → Option Fields
  | .object fields => some fields
  | _ => none

/-- An integer below `bound`. -/
def natBelow? (bound : Nat) : Json → Option Nat
  | .integer i => if 0 ≤ i ∧ i < bound then some i.toNat else none
  | _ => none

def word16? (j : Json) : Option UInt16 := (natBelow? UInt16.size j).map UInt16.ofNat

def word32? (j : Json) : Option UInt32 := (natBelow? UInt32.size j).map UInt32.ofNat

def word64? (j : Json) : Option UInt64 := (natBelow? UInt64.size j).map UInt64.ofNat

def list? {α : Type} (read : Json → Option α) : Json → Option (List α)
  | .list items => items.mapM read
  | _ => none

def lookup (fields : Fields) (name : String) : Option Json :=
  (Keyed.find? Prod.fst name fields).map Prod.snd

def required {α : Type} (fields : Fields) (name : String) (read : Json → Option α) : Option α :=
  (lookup fields name).bind read

def withDefault {α : Type} (fields : Fields) (name : String) (default : α)
    (read : Json → Option α) : Option α :=
  match lookup fields name with
  | some j => read j
  | none => some default

def word (n : Nat) : Json := .integer n

end Document

end ConnectorHub
