namespace ConnectorHub

/-- A binary floating-point number of 64 bits, held as its bits. -/
structure Binary64 where
  bits : UInt64
  deriving DecidableEq, Repr

namespace Binary64

/-- The weight of the sign bit. -/
def signWeight : Nat := 0x8000000000000000

def negative (x : Binary64) : Bool := decide (signWeight ≤ x.bits.toNat)

/-- The bits below the sign; they grow with the absolute value. -/
def magnitude (x : Binary64) : Nat := x.bits.toNat % signWeight

def infinityMagnitude : Nat := 0x7ff0000000000000

def isNaN (x : Binary64) : Bool := decide (infinityMagnitude < x.magnitude)

/-- An integer ordered as the number is; both zeros give zero. -/
def rank (x : Binary64) : Int := if x.negative then -(x.magnitude : Int) else x.magnitude

def compare? (x y : Binary64) : Option Ordering :=
  if x.isNaN || y.isNaN then none else some (compare x.rank y.rank)

/-- Numeric equality: the zeros are equal, a NaN equals nothing. -/
def equals (x y : Binary64) : Bool := x.compare? y == some .eq

/-- The one NaN that stands for all. -/
def quietNaN : Binary64 := ⟨0x7ff8000000000000⟩

def canonical (x : Binary64) : Binary64 := if x.isNaN then quietNaN else x

/-- The sign and the magnitude put together. -/
def ofMagnitude (negative : Bool) (magnitude : Nat) : Binary64 :=
  ⟨UInt64.ofNat (if negative then signWeight + magnitude else magnitude)⟩

/-- The largest `e` with `2 ^ e ≤ num / den`, for positive arguments. -/
def exponentOf (num den : Nat) : Int :=
  let e : Int := (num.log2 : Int) - (den.log2 : Int)
  let below := if 0 ≤ e then decide (num < den <<< e.toNat)
    else decide (num <<< (-e).toNat < den)
  if below then e - 1 else e

/-- The quotient rounded to the nearest integer, a half to the even one. -/
def roundDiv (num den : Nat) : Nat :=
  let q := num / den
  let r := num % den
  if 2 * r < den then q
  else if den < 2 * r then q + 1
  else if q % 2 = 0 then q else q + 1

/-- The magnitude nearest to `num / den`, ties to the even one. From half a unit above the largest
finite number on it is the infinity. -/
def nearestMagnitude (num den : Nat) : Nat :=
  if num = 0 then 0
  else
    let e := max (exponentOf num den) (-1022)
    let unit := e - 52
    let q := if 0 ≤ unit then roundDiv num (den <<< unit.toNat)
      else roundDiv (num <<< (-unit).toNat) den
    min (((e + 1022).toNat <<< 52) + q) infinityMagnitude

def ofRatio (negative : Bool) (num den : Nat) : Binary64 :=
  ofMagnitude negative (nearestMagnitude num den)

def ofInt (i : Int) : Binary64 := ofRatio (decide (i < 0)) i.natAbs 1

/-- The weight of the leading bit of a significand, which the bits of a number leave out. -/
def hiddenBit : Nat := 0x10000000000000

/-- The significand and the power of two of a finite magnitude: `s * 2 ^ e`. -/
def parts (magnitude : Nat) : Nat × Int :=
  let field : Nat := magnitude / hiddenBit
  let fraction : Nat := magnitude % hiddenBit
  if field = 0 then (fraction, -1074) else (hiddenBit + fraction, (field : Int) - 1075)

/-- The magnitude nearest to `n / d * 2 ^ e`. -/
def nearestScaled (n d : Nat) (e : Int) : Nat :=
  if 0 ≤ e then nearestMagnitude (n <<< e.toNat) d else nearestMagnitude n (d <<< (-e).toNat)

def product (m n : Nat) : Nat :=
  nearestScaled ((parts m).1 * (parts n).1) 1 ((parts m).2 + (parts n).2)

def quotient (m n : Nat) : Nat :=
  nearestScaled (parts m).1 (parts n).1 ((parts m).2 - (parts n).2)

/-- The integer `10 ^ n`. -/
def tens (n : Nat) : Nat := Nat.pow 10 n

def powerOfTen (n : Nat) : Nat := nearestMagnitude (tens n) 1

/-- Divides by `10 ^ n`, in steps of the largest power of ten that is a finite number. -/
def divideByTens (m n : Nat) : Nat :=
  if n ≤ 308 then quotient m (powerOfTen n)
  else if m = 0 then 0
  else divideByTens (quotient m (powerOfTen 308)) (n - 308)
termination_by n

/-- Multiplies by `10 ^ n`; none if that leaves the finite numbers. -/
def multiplyByTens (m n : Nat) : Option Nat :=
  if m = 0 then some 0
  else if 308 < n then none
  else
    let p := product m (powerOfTen n)
    if p < infinityMagnitude then some p else none

/-- Reads `digits * 10 ^ exponent`: first the digits are rounded to a number, then the number is
scaled by a power of ten that is rounded as well. The result is the nearest number as long as digits
and power are numbers themselves. None if it is beyond the finite numbers. -/
def ofDecimal? (negative : Bool) (digits : Nat) (exponent : Int) : Option Binary64 :=
  let m := nearestMagnitude digits 1
  (if 0 ≤ exponent then multiplyByTens m exponent.toNat
    else some (divideByTens m (-exponent).toNat)).map (ofMagnitude negative)

end Binary64

end ConnectorHub
