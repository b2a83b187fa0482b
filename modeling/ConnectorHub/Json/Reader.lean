import ConnectorHub.Json.Basic
import ConnectorHub.Text.Hex

namespace ConnectorHub.Json

def skipBlank (cs : List Char) : List Char :=
  cs.dropWhile fun c => c = ' ' || c = '\n' || c = '\r' || c = '\t'

def readHex4 : List Char → Option (Nat × List Char)
  | a :: b :: c :: d :: rest => (Hex.nat? [a, b, c, d]).map fun n => (n, rest)
  | _ => none

def simpleEscape? (c : Char) : Option Char :=
  if c = '"' ∨ c = '\\' ∨ c = '/' then some c
  else if c = 'b' then some '\x08'
  else if c = 'f' then some '\x0c'
  else if c = 'n' then some '\n'
  else if c = 'r' then some '\r'
  else if c = 't' then some '\t'
  else none

/-- The character of `\uXXXX`, or of two of them that form a surrogate pair. -/
def readUnicodeEscape (cs : List Char) : Option (Char × List Char) := do
  let (high, rest) ← readHex4 cs
  if 0xD800 ≤ high ∧ high < 0xDC00 then
    match rest with
    | '\\' :: 'u' :: rest => do
      let (low, rest) ← readHex4 rest
      if 0xDC00 ≤ low ∧ low < 0xE000 then
        pure (Char.ofNat (0x10000 + (high - 0xD800) * 0x400 + (low - 0xDC00)), rest)
      else none
    | _ => none
  else if 0xDC00 ≤ high ∧ high < 0xE000 then none
  else pure (Char.ofNat high, rest)

/-- The characters up to the closing quote, latest first. -/
def readText : Nat → List Char → List Char → Option (List Char × List Char)
  | 0, _, _ => none
  | _ + 1, _, [] => none
  | fuel + 1, done, c :: rest =>
    if c = '"' then some (done, rest)
    else if c = '\\' then
      match rest with
      | 'u' :: rest => do
        let (c, rest) ← readUnicodeEscape rest
        readText fuel (c :: done) rest
      | c :: rest => do
        let c ← simpleEscape? c
        readText fuel (c :: done) rest
      | [] => none
    else if c.toNat < 0x20 then none
    else readText fuel (c :: done) rest

def digitValue (c : Char) : Nat := c.toNat - '0'.toNat

def digitsValue (cs : List Char) : Nat := cs.foldl (fun n c => n * 10 + digitValue c) 0

/-- Appends digits to a number as long as it fits 64 bits; the rest are the digits left out. -/
def fitDigits (n : Nat) : List Char → Nat × List Char
  | [] => (n, [])
  | c :: rest =>
    let next := n * 10 + digitValue c
    if next < UInt64.size then fitDigits next rest else (n, c :: rest)

def isDigit (c : Char) : Bool := decide ('0' ≤ c) && decide (c ≤ '9')

/-- The digits after a point and the exponent, each `none` where the text has none. -/
def readFraction : List Char → Option (Option (List Char) × List Char)
  | '.' :: rest =>
    let digits := rest.takeWhile isDigit
    if digits.isEmpty then none else some (some digits, rest.dropWhile isDigit)
  | rest => some (none, rest)

def readExponent : List Char → Option (Option Int × List Char)
  | c :: rest =>
    if c = 'e' ∨ c = 'E' then
      let (negative, rest) := match rest with
        | '-' :: rest => (true, rest)
        | '+' :: rest => (false, rest)
        | _ => (false, rest)
      let digits := rest.takeWhile isDigit
      if digits.isEmpty then none
      else
        let n : Int := digitsValue digits
        some (some (if negative then -n else n), rest.dropWhile isDigit)
    else some (none, c :: rest)
  | [] => some (none, [])

/-- A number of 64 bits as an integer, where its sign leaves it one. -/
def integerOrReal (negative : Bool) (n : Nat) : Option Json :=
  if ¬ negative then some (.integer n)
  else if 0 < n ∧ n ≤ Binary64.signWeight then some (.integer (-(n : Int)))
  else (Binary64.ofDecimal? negative n 0).map .real

/-- The number of the digits before the point, those after it and the exponent. -/
def number? (negative : Bool) (whole : List Char) (fraction : Option (List Char))
    (exponent : Option Int) : Option Json :=
  let (n, dropped) := fitDigits 0 whole
  match dropped, fraction, exponent with
  | [], none, none => integerOrReal negative n
  | _, _, _ =>
    let places := fraction.getD []
    let (m, left) := fitDigits n places
    let scale : Int := exponent.getD 0 + dropped.length + left.length - places.length
    (Binary64.ofDecimal? negative m scale).map .real

def readNumber (cs : List Char) : Option (Json × List Char) := do
  let (negative, cs) := match cs with
    | '-' :: rest => (true, rest)
    | _ => (false, cs)
  let whole := cs.takeWhile isDigit
  if whole.isEmpty || (whole.head? == some '0' && whole.length != 1) then none
  else do
    let (fraction, rest) ← readFraction (cs.dropWhile isDigit)
    let (exponent, rest) ← readExponent rest
    let value ← number? negative whole fraction exponent
    pure (value, rest)

def expectWord (word : String) (value : Json) (cs : List Char) : Option (Json × List Char) :=
  if word.toList.isPrefixOf cs then some (value, cs.drop word.length) else none

mutual

def readValue : Nat → List Char → Option (Json × List Char)
  | 0, _ => none
  | fuel + 1, cs =>
    match skipBlank cs with
    | '"' :: rest => do
      let (s, rest) ← readText (rest.length + 1) [] rest
      pure (.text (String.ofList s.reverse), rest)
    | '[' :: rest =>
      match skipBlank rest with
      | ']' :: rest => some (.list [], rest)
      | rest => do
        let (items, rest) ← readItems fuel rest
        pure (.list items, rest)
    | '\x7b' :: rest =>
      match skipBlank rest with
      | '\x7d' :: rest => some (.object [], rest)
      | rest => do
        let (fields, rest) ← readFields fuel rest
        pure (ofFields fields, rest)
    | 'n' :: rest => expectWord "null" .null ('n' :: rest)
    | 't' :: rest => expectWord "true" (.bool true) ('t' :: rest)
    | 'f' :: rest => expectWord "false" (.bool false) ('f' :: rest)
    | rest => readNumber rest

def readItems : Nat → List Char → Option (List Json × List Char)
  | 0, _ => none
  | fuel + 1, cs => do
    let (a, rest) ← readValue fuel cs
    match skipBlank rest with
    | ',' :: rest => do
      let (more, rest) ← readItems fuel rest
      pure (a :: more, rest)
    | ']' :: rest => pure ([a], rest)
    | _ => none

def readFields : Nat → List Char → Option (List (String × Json) × List Char)
  | 0, _ => none
  | fuel + 1, cs =>
    match skipBlank cs with
    | '"' :: rest => do
      let (name, rest) ← readText (rest.length + 1) [] rest
      match skipBlank rest with
      | ':' :: rest => do
        let (a, rest) ← readValue fuel rest
        let field := (String.ofList name.reverse, a)
        match skipBlank rest with
        | ',' :: rest => do
          let (more, rest) ← readFields fuel rest
          pure (field :: more, rest)
        | '\x7d' :: rest => pure ([field], rest)
        | _ => none
      | _ => none
    | _ => none

end

/-- The value a whole text spells, if it spells one. -/
def parse? (s : String) : Option Json := do
  let cs := s.toList
  let (value, rest) ← readValue (cs.length + 1) cs
  if (skipBlank rest).isEmpty then pure value else none

end ConnectorHub.Json
