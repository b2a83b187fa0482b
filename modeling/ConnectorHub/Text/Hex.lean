namespace ConnectorHub.Hex

def digit? (c : Char) : Option Nat :=
  if '0' ≤ c ∧ c ≤ '9' then some (c.toNat - '0'.toNat)
  else if 'a' ≤ c ∧ c ≤ 'f' then some (c.toNat - 'a'.toNat + 10)
  else if 'A' ≤ c ∧ c ≤ 'F' then some (c.toNat - 'A'.toNat + 10)
  else none

/-- The number that the digits spell. -/
def nat? (cs : List Char) : Option Nat :=
  (cs.mapM digit?).map fun ds => ds.foldl (fun n d => n * 16 + d) 0

/-- At least `width` digits, in lower case. -/
def digits (width n : Nat) : List Char :=
  let ds := Nat.toDigits 16 n
  List.replicate (width - ds.length) '0' ++ ds

def bytes? : List Char → Option (List UInt8)
  | [] => some []
  | a :: b :: rest => do
    let n ← nat? [a, b]
    let more ← bytes? rest
    pure (UInt8.ofNat n :: more)
  | _ => none

def ofBytes (bytes : List UInt8) : String :=
  String.ofList (bytes.flatMap fun b => digits 2 b.toNat)

end ConnectorHub.Hex
