import EndpointDocs.Json
import EndpointDocs.Decimal.Reading

/-!
# The meaning of plain scalars

A plain scalar is null, a truth value, an integer, a number or a text, by its spelling alone.
-/

namespace EndpointDocs

namespace Yaml

namespace Plain

def isNull (s : Text) : Bool :=
  ["null".toList, "Null".toList, "NULL".toList, "~".toList].contains s

def truth? (s : Text) : Option Bool :=
  if ["true".toList, "True".toList, "TRUE".toList].contains s then some true
  else if ["false".toList, "False".toList, "FALSE".toList].contains s then some false
  else none

/-- The number that digits of a base denote, if there is a digit and it is at most `limit`. -/
def natural? (base limit : Nat) (digits : Text) : Option Nat := do
  if digits.isEmpty then none
  let n ← Text.ofDigits? base digits
  if n ≤ limit then some n else none

/-- Digits with a zero in front: an integer by its looks, but a text. -/
def hasLeadingZero (s : Text) : Bool :=
  match (Decimal.takeSign s).2 with
  | '0' :: d :: digits => (d :: digits).all Char.isDigit
  | _ => false

def marked? (limit : Nat) (s : Text) : Option Nat :=
  match s with
  | '0' :: 'x' :: digits => natural? 16 limit digits
  | '0' :: 'o' :: digits => natural? 8 limit digits
  | '0' :: 'b' :: digits => natural? 2 limit digits
  | _ => none

/-- The natural number of at most `limit` that a text spells, perhaps after a plus. -/
def unsigned? (limit : Nat) (s : Text) : Option Nat :=
  let digits := match s with
    | '+' :: digits => digits
    | _ => s
  match marked? limit digits with
  | some n => some n
  | none => if hasLeadingZero s then none else natural? 10 limit digits

def negative? (limit : Nat) (s : Text) : Option Nat :=
  match s with
  | '-' :: digits =>
    match marked? limit digits with
    | some n => some n
    | none => if hasLeadingZero s then none else natural? 10 limit digits
  | _ => none

inductive Integer where
  | fits (n : Int)
  /-- Beyond 64 bits but not beyond 128. -/
  | tooWide

def integer? (s : Text) : Option Integer :=
  match unsigned? 0xFFFFFFFFFFFFFFFF s, negative? 0x8000000000000000 s with
  | some n, _ => some (.fits n)
  | none, some n => some (.fits (-(n : Int)))
  | none, none =>
    if (unsigned? 0xFFFFFFFFFFFFFFFFFFFFFFFFFFFFFFFF s).isSome ||
        (negative? 0x80000000000000000000000000000000 s).isSome then some .tooWide
    else none

def namesNotFinite (s : Text) : Bool :=
  let word := match s with
    | '+' :: word => word
    | _ => s
  [".inf".toList, ".Inf".toList, ".INF".toList].contains word ||
    ["-.inf".toList, "-.Inf".toList, "-.INF".toList,
      ".nan".toList, ".NaN".toList, ".NAN".toList].contains s

/-- The number that a text spells; a value that is not finite has no JSON number and is null. -/
def number? (s : Text) : Option Json :=
  if namesNotFinite s then some .null
  else
    let unsigned := match s with
      | '+' :: '+' :: _ => none
      | '+' :: '-' :: _ => none
      | '+' :: rest => some rest
      | _ => some s
    match unsigned.bind Decimal.read? with
    | some (.finite x) => some (.float x)
    | _ => none

/-- The value of a plain scalar; none for an integer that is too wide. -/
def value? (s : Text) : Option Json :=
  if s.isEmpty || isNull s then some .null
  else match truth? s with
    | some b => some (.bool b)
    | none => match integer? s with
      | some (.fits n) => some (.int n)
      | some .tooWide => none
      | none =>
        if hasLeadingZero s then some (.text s) else some ((number? s).getD (.text s))

/-- Whether a text written as a plain scalar would not be read as itself, or is close to that. -/
def isAmbiguous (s : Text) : Bool :=
  hasLeadingZero s || match value? s with
    | some (.text _) => false
    | _ => true

end Plain

end Yaml

end EndpointDocs
