import EndpointDocs.Random.Stream
import EndpointDocs.Decimal.Binary64

/-!
# Draws from a stream

Uniform draws: a number below a bound, a double below one hundred with two decimals, and a coin.
-/

namespace EndpointDocs

namespace Random

/-- Rejections after which a draw is taken as it stands.  Each word is accepted with a probability
above one half, so no run comes near this bound. -/
def patience : Nat := 0x100000

/-- Multiplies a word by the bound and takes the high half; a word whose low half lies beyond `zone`
is rejected and the next one tried. -/
def belowFrom (bound zone : Nat) : Nat → Stream → Nat × Stream
  | 0, s =>
    let (word, s) := s.next32
    (word.toNat * bound / 0x100000000, s)
  | n + 1, s =>
    let (word, s) := s.next32
    if word.toNat * bound % 0x100000000 ≤ zone then (word.toNat * bound / 0x100000000, s)
    else belowFrom bound zone n s

/-- The greatest low half that is accepted: the bound shifted to fill 32 bits, less one. -/
def acceptZone (bound : Nat) : Nat :=
  bound * twoPow (31 - bound.log2) - 1

/-- A number below `bound`, for a positive bound of at most 32 bits. -/
def below (bound : Nat) (s : Stream) : Nat × Stream :=
  belowFrom bound (acceptZone bound) patience s

/-- A member of a list that has one, else the fallback.  Nothing is drawn for an empty list. -/
def choose {α : Type} (fallback : α) (xs : List α) (s : Stream) : α × Stream :=
  if xs.isEmpty then (fallback, s)
  else
    let (i, s) := below xs.length s
    (xs[i]?.getD fallback, s)

/-- Whether the next 64 bits lie in the lower half. -/
def coin (s : Stream) : Bool × Stream :=
  let (n, s) := s.next64
  (decide (n < 0x8000000000000000), s)

/-- A double of two decimals from zero to one hundred: 52 bits as a fraction of one, times one
hundred, times one hundred, rounded to a whole number with halves going up, over one hundred.  Each
step but the last rounding is one of doubles. -/
def cents (s : Stream) : Binary64 × Stream :=
  let (n, s) := s.next64
  let fraction := n / 0x1000
  let percent := (Binary64.nearest? false (fraction * 100) 0x10000000000000).getD
    (Binary64.zero false)
  let scaled := (Binary64.nearest? false (percent.numerator * 100) percent.denominator).getD
    (Binary64.zero false)
  let whole := roundDivUp scaled.numerator scaled.denominator
  ((Binary64.nearest? false whole 100).getD (Binary64.zero false), s)

end Random

end EndpointDocs
