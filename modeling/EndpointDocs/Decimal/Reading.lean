import EndpointDocs.Decimal.Binary64
import EndpointDocs.Text.Basic

/-!
# Reading a double

The decimal spellings of a double: an optional sign, then digits with an optional fraction or a
fraction alone, an optional exponent, or one of the words for infinity and not-a-number in any case.
The value is the nearest double.
-/

namespace EndpointDocs

namespace Decimal

/-- What a spelling denotes. -/
inductive Reading where
  | finite (value : Binary64)
  | notFinite
deriving DecidableEq, Repr

def Reading.finite? : Reading → Option Binary64
  | .finite value => some value
  | .notFinite => none

/-- Takes a sign off the front of a text and says whether it is a minus. -/
def takeSign : Text → Bool × Text
  | '-' :: s => (true, s)
  | '+' :: s => (false, s)
  | s => (false, s)

/-- The value of an exponent part, which may be absent; none when the text is no exponent part. -/
def exponent? : Text → Option Int
  | [] => some 0
  | e :: s =>
    if e = 'e' ∨ e = 'E' then
      let (negative, digits) := takeSign s
      if digits.isEmpty || !digits.all Char.isDigit then none
      else if negative then some (-(Text.digitsToNat digits : Int))
      else some (Text.digitsToNat digits : Int)
    else none

/-- The whole digits, the digits of the fraction and the rest of an unsigned spelling. -/
def splitDigits (s : Text) : Text × Text × Text :=
  let (whole, rest) := s.span Char.isDigit
  match rest with
  | '.' :: t =>
    let (fraction, rest) := t.span Char.isDigit
    (whole, fraction, rest)
  | _ => (whole, [], rest)

def namesNotFinite (s : Text) : Bool :=
  ["inf".toList, "infinity".toList, "nan".toList].contains (s.map Char.toLower)

def read? (s : Text) : Option Reading :=
  let (negative, body) := takeSign s
  if namesNotFinite body then some .notFinite
  else
    let (whole, fraction, rest) := splitDigits body
    if whole.isEmpty && fraction.isEmpty then none
    else (exponent? rest).map fun exponent ↦
      match Binary64.ofDecimal? negative (Text.digitsToNat (whole ++ fraction))
          (exponent - fraction.length) with
      | some value => .finite value
      | none => .notFinite

end Decimal

end EndpointDocs
