/-!
# Finite doubles

A finite number of the binary64 format, held as its sign, mantissa and exponent.  Every operation
works on the exact quotient of two natural numbers and rounds once, to the nearest double and to the
even mantissa on a tie; a result beyond the largest double is `none`.
-/

namespace EndpointDocs

/-- The number `mantissa * 2 ^ exponent` with its sign.  The mantissa is below `2 ^ 53`, and it is
at least `2 ^ 52` unless the exponent is `-1074`. -/
structure Binary64 where
  negative : Bool
  mantissa : Nat
  exponent : Int
deriving DecidableEq, Repr

def twoPow (k : Nat) : Nat := Nat.pow 2 k

def tenPow (k : Nat) : Nat := Nat.pow 10 k

/-- The natural number nearest to `num / den`, the even one on a tie. -/
def roundDiv (num den : Nat) : Nat :=
  let q := num / den
  let r := num % den
  if 2 * r < den then q
  else if den < 2 * r then q + 1
  else if q % 2 = 0 then q
  else q + 1

/-- The natural number nearest to `num / den`, the larger one on a tie. -/
def roundDivUp (num den : Nat) : Nat :=
  (2 * num + den) / (2 * den)

/-- The exponent `k` with `2 ^ k ≤ num / den < 2 ^ (k + 1)`, for positive `num` and `den`. -/
def binaryExponent (num den : Nat) : Int :=
  let k : Int := (num.log2 : Int) - den.log2
  if num * twoPow (-k).toNat < den * twoPow k.toNat then k - 1 else k

namespace Binary64

def leastExponent : Int := -1074

/-- The greatest exponent of a double whose mantissa is below `2 ^ 53`. -/
def greatestExponent : Int := 971

def zero (negative : Bool) : Binary64 :=
  ⟨negative, 0, leastExponent⟩

/-- The double nearest to `num / den`; none when that is infinite.  The denominator is positive. -/
def nearest? (negative : Bool) (num den : Nat) : Option Binary64 :=
  if num = 0 then some (zero negative)
  else
    let e := max (binaryExponent num den - 52) leastExponent
    let m := roundDiv (num * twoPow (-e).toNat) (den * twoPow e.toNat)
    if m = 0x20000000000000 then
      if e + 1 ≤ greatestExponent then some ⟨negative, 0x10000000000000, e + 1⟩ else none
    else if e ≤ greatestExponent then some ⟨negative, m, e⟩ else none

/-- The numerator of the magnitude over `denominator`. -/
def numerator (x : Binary64) : Nat :=
  x.mantissa * twoPow x.exponent.toNat

def denominator (x : Binary64) : Nat :=
  twoPow (-x.exponent).toNat

def mul? (x y : Binary64) : Option Binary64 :=
  nearest? (x.negative != y.negative) (x.numerator * y.numerator) (x.denominator * y.denominator)

def div? (x y : Binary64) : Option Binary64 :=
  nearest? (x.negative != y.negative) (x.numerator * y.denominator) (x.denominator * y.numerator)

/-- The double nearest to `digits * 10 ^ exponent`.  Exponents that decide the result by their size
alone are settled before a power of ten is taken. -/
def ofDecimal? (negative : Bool) (digits : Nat) (exponent : Int) : Option Binary64 :=
  if digits = 0 then some (zero negative)
  else
    let top : Int := ((Nat.toDigits 10 digits).length : Int) + exponent
    if 400 < top then none
    else if top < -400 then some (zero negative)
    else nearest? negative (digits * tenPow exponent.toNat) (tenPow (-exponent).toNat)

end Binary64

end EndpointDocs
