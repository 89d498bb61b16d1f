import EndpointDocs.Decimal.Shortest

/-!
# The text of a double

A double is written with its shortest digits.  Exponents of the first digit from -5 to 15 are
written positionally and always with a point; the others in scientific form.
-/

namespace EndpointDocs

/-- What a format decides about the text of a double. -/
structure FloatLayout where
  /-- The least exponent of the first digit that is written positionally. -/
  leastPlain : Int
  /-- The greatest exponent of the first digit that is written positionally. -/
  greatestPlain : Int
  /-- What stands before a positive exponent. -/
  positiveSign : Text

namespace FloatLayout

/-- The digits around a point, the first digit having the exponent `k`. -/
def plain (digits : Text) (k : Int) : Text :=
  if k < 0 then '0' :: '.' :: (List.replicate ((-k).toNat - 1) '0' ++ digits)
  else
    let whole := k.toNat + 1
    let padded := digits ++ List.replicate (whole - digits.length) '0'
    let fraction := padded.drop whole
    padded.take whole ++ '.' :: (if fraction.isEmpty then ['0'] else fraction)

def scientific (layout : FloatLayout) (digits : Text) (k : Int) : Text :=
  let mantissa := match digits with
    | [] => []
    | [d] => [d]
    | d :: others => d :: '.' :: others
  mantissa ++ 'e' :: ((if 0 ≤ k then layout.positiveSign else []) ++ Text.ofInt k)

def write (layout : FloatLayout) (x : Binary64) : Text :=
  let (digits, k) := x.shortest
  let magnitude :=
    if layout.leastPlain ≤ k ∧ k ≤ layout.greatestPlain then plain digits k
    else layout.scientific digits k
  if x.negative then '-' :: magnitude else magnitude

end FloatLayout

end EndpointDocs
