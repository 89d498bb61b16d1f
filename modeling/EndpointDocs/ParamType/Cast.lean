import EndpointDocs.ParamType
import EndpointDocs.Json
import EndpointDocs.Decimal.Reading

/-!
# Casting literals

The value that an example literal has for a parameter type.  A number is read from as much of the
front of the literal as spells one; what spells none is zero.
-/

namespace EndpointDocs

/-- The optional sign and the digits at the front of a text. -/
def integerFront (s : Text) : Text :=
  match s with
  | [] => []
  | c :: digits =>
    if c = '-' ∨ c = '+' then c :: digits.takeWhile Char.isDigit
    else (c :: digits).takeWhile Char.isDigit

/-- The integer that a sign and digits spell, if there is a digit and the integer fits 64 bits. -/
def wordInteger? (s : Text) : Option Int :=
  let (negative, digits) := Decimal.takeSign s
  if digits.isEmpty || !digits.all Char.isDigit then none
  else
    let n : Int := Text.digitsToNat digits
    let value := if negative then -n else n
    if -0x8000000000000000 ≤ value ∧ value < 0x8000000000000000 then some value else none

def leadingInteger (literal : Text) : Int :=
  (wordInteger? (integerFront (Text.trimStart literal))).getD 0

/-- What the longest spelling of a number among the first `n` characters denotes. -/
def longestReading? (s : Text) : Nat → Option Decimal.Reading
  | 0 => none
  | n + 1 =>
    match Decimal.read? (s.take (n + 1)) with
    | some reading => some reading
    | none => longestReading? s n

/-- The finite number at the front of a literal, or zero. -/
def leadingNumber (literal : Text) : Binary64 :=
  let s := Text.trimStart literal
  ((longestReading? s s.length).bind Decimal.Reading.finite?).getD (Binary64.zero false)

def isFalsy (literal : Text) : Bool :=
  literal.isEmpty || literal == "0".toList || literal == "false".toList

def ParamType.cast (t : ParamType) (literal : Text) : Json :=
  match t with
  | .integer => .int (leadingInteger literal)
  | .number => .float (leadingNumber literal)
  | .boolean => .bool (!isFalsy literal)
  | _ => .text literal

end EndpointDocs
