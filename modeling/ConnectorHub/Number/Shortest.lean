import ConnectorHub.Number.Binary64

namespace ConnectorHub.Binary64

/-- The number nearest to `digits * 10 ^ exponent` has this magnitude. -/
def isNearest (magnitude digits : Nat) (exponent : Int) : Bool :=
  let m := if 0 ≤ exponent then nearestMagnitude (digits * tens exponent.toNat) 1
    else nearestMagnitude digits (tens (-exponent).toNat)
  m == magnitude

/-- The largest `e` with `10 ^ e ≤ num / den`, for positive arguments: `guess` is at most that, and
`fuel` steps up reach it. -/
def decimalExponent (num den : Nat) : Nat → Int → Int
  | 0, guess => guess
  | fuel + 1, guess =>
    let next := guess + 1
    let reached := if 0 ≤ next then decide (den * tens next.toNat ≤ num)
      else decide (den ≤ num * tens (-next).toNat)
    if reached then decimalExponent num den fuel next else guess

/-- The multiples of `10 ^ exponent` next to `num / den`, the nearer first; a tie goes to the even
one. -/
def neighbours (num den : Nat) (exponent : Int) : List Nat :=
  let n := if 0 ≤ exponent then num else num * tens (-exponent).toNat
  let d := if 0 ≤ exponent then den * tens exponent.toNat else den
  let near := roundDiv n d
  let far := if near * d ≤ n then near + 1 else near - 1
  [near, far]

/-- Tries ever finer decimal grids and takes the first that holds a decimal to which the number is
the nearest. -/
def shortestFrom (magnitude num den : Nat) (top : Int) : List Nat → Nat × Int
  | [] => (0, 0)
  | places :: more =>
    let exponent := top + 1 - (places : Int)
    match (neighbours num den exponent).find? fun d => isNearest magnitude d exponent with
    | some digits => (digits, exponent)
    | none => shortestFrom magnitude num den top more

def trimZeros : Nat → Nat → Int → Nat × Int
  | 0, digits, exponent => (digits, exponent)
  | fuel + 1, digits, exponent =>
    if digits % 10 = 0 ∧ digits ≠ 0 then trimZeros fuel (digits / 10) (exponent + 1)
    else (digits, exponent)

/-- Digits and power of ten of the shortest decimal of a positive finite number. -/
def shortest (x : Binary64) : Nat × Int :=
  let (s, e) := parts x.magnitude
  let num := if 0 ≤ e then s <<< e.toNat else s
  let den := if 0 ≤ e then 1 else 1 <<< (-e).toNat
  let top := decimalExponent num den 700 (-330)
  let found := shortestFrom x.magnitude num den top (List.range' 1 17)
  trimZeros 20 found.1 found.2

def zeros (n : Nat) : List Char := List.replicate n '0'

/-- Digits with their power of ten, written out. An exponent always shows its sign. -/
def layout (digits : List Char) (exponent : Int) : List Char :=
  let point : Int := (digits.length : Int) + exponent
  if 0 ≤ exponent ∧ point ≤ 16 then digits ++ zeros exponent.toNat ++ ['.', '0']
  else if 0 < point ∧ point ≤ 16 then
    digits.take point.toNat ++ '.' :: digits.drop point.toNat
  else if -5 < point ∧ point ≤ 0 then '0' :: '.' :: (zeros (-point).toNat ++ digits)
  else
    let sign := if point < 1 then '-' else '+'
    let mark := 'e' :: sign :: (toString (point - 1).natAbs).toList
    match digits with
    | [d] => d :: mark
    | d :: more => d :: '.' :: (more ++ mark)
    | [] => mark

/-- A finite number as decimal text. It always shows a point or an exponent. -/
def decimal (x : Binary64) : String :=
  let body := if x.magnitude = 0 then ['0', '.', '0']
    else layout (Nat.toDigits 10 x.shortest.1) x.shortest.2
  String.ofList (if x.negative then '-' :: body else body)

end ConnectorHub.Binary64
