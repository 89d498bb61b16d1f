import EndpointDocs.Decimal.Binary64
import EndpointDocs.Text.Basic

/-!
# Shortest digits

The fewest decimal digits that read back as a given double.  A double stands for the numbers that
round to it: those up to half the distance to its neighbours, the ends included when its mantissa is
even.  Of the decimal grids from coarse to fine, the first with a point in that interval is taken,
and of two such points the nearer, the even one on a tie.
-/

namespace EndpointDocs

namespace Binary64

/-- Whether `num / den` rounds to the magnitude of `x`, which is not zero. -/
def standsFor (x : Binary64) (num den : Nat) : Bool :=
  -- the value and the ends of the interval in quarters of a unit in the last place
  let scaled := num * twoPow (2 - x.exponent).toNat
  let unit := den * twoPow (x.exponent - 2).toNat
  let below := if x.mantissa = 0x10000000000000 ∧ leastExponent < x.exponent then 1 else 2
  let low := (4 * x.mantissa - below) * unit
  let high := (4 * x.mantissa + 2) * unit
  if x.mantissa % 2 = 0 then low ≤ scaled && scaled ≤ high
  else low < scaled && scaled < high

/-- The exponent `k` with `10 ^ k ≤ num / den < 10 ^ (k + 1)`, for positive `num` and `den`. -/
def decimalExponent (num den : Nat) : Int :=
  if den ≤ num then ((Nat.toDigits 10 (num / den)).length : Int) - 1
  else
    let j := (Nat.toDigits 10 (den / num)).length
    if den ≤ num * tenPow (j - 1) then 1 - (j : Int) else -(j : Int)

/-- The point of the grid of spacing `10 ^ spacing` that stands for `x` and is nearest to it, as a
multiple of the spacing. -/
def gridPoint? (x : Binary64) (spacing : Int) : Option Nat :=
  let num := x.numerator * tenPow (-spacing).toNat
  let den := x.denominator * tenPow spacing.toNat
  let nearer := roundDiv num den
  let floor := num / den
  let other := if nearer = floor then floor + 1 else floor
  let hits (n : Nat) : Bool :=
    0 < n && x.standsFor (n * tenPow spacing.toNat) (tenPow (-spacing).toNat)
  if hits nearer then some nearer
  else if hits other then some other
  else none

def dropZeros (digits : Text) : Text :=
  Text.dropEndWhile (· == '0') digits

/-- The fewest digits that read back as `x` and the decimal exponent of the first of them; for zero,
the digit zero and the exponent zero. -/
def shortest (x : Binary64) : Text × Int :=
  if x.mantissa = 0 then (['0'], 0)
  else
    let k := decimalExponent x.numerator x.denominator
    let found := (List.range 17).findSome? fun (n : Nat) ↦
      (x.gridPoint? (k - n)).map fun point ↦ (Text.ofNat point, k - n)
    match found with
    | none => (['0'], 0)
    | some (digits, spacing) => (dropZeros digits, spacing + digits.length - 1)

end Binary64

end EndpointDocs
