import EndpointDocs.Json

/-!
# JSON texts

The tree of a JSON text as it is spelled.  A number keeps its digits, and a string with half of a
surrogate pair is told from a text: whether either is a fault depends on whether anybody reads it,
because the value of an unknown field is only passed over.
-/

namespace EndpointDocs

namespace Json

/-- The digits of a number as they are spelled. -/
structure Numeral where
  negative : Bool
  whole : Text
  fraction : Option Text
  exponent : Option (Bool × Text)
deriving Repr

/-- A JSON text as it is spelled; a string is none where an escape is half of a surrogate pair. -/
inductive Node where
  | null
  | bool (b : Bool)
  | number (n : Numeral)
  | string (s : Option Text)
  | array (items : List Node)
  | object (fields : List (Option Text × Node))
deriving Repr, Inhabited

namespace Numeral

def greatestWord : Nat := 0xFFFFFFFFFFFFFFFF

/-- Appends digits to a number as long as it fits 64 bits, and counts the digits left over. -/
def absorb : Nat → Text → Nat × Nat
  | n, [] => (n, 0)
  | n, d :: digits =>
    let next := 10 * n + (d.toNat - '0'.toNat)
    if next ≤ greatestWord then absorb next digits else (n, digits.length + 1)

/-- The double nearest to a power of ten, for an exponent up to 308. -/
def powerOfTen (k : Nat) : Binary64 :=
  (Binary64.nearest? false (tenPow k) 1).getD (Binary64.zero false)

def withSign (negative : Bool) (x : Binary64) : Binary64 :=
  { x with negative := negative }

/-- Divides a double by ten to the power `k`, at most 308 places at a time, until it is zero or
nothing is left to divide by. -/
def lower : Nat → Binary64 → Nat → Binary64
  | 0, x, _ => x
  | steps + 1, x, k =>
    if x.mantissa = 0 then x
    else if k ≤ 308 then (x.div? (powerOfTen k)).getD x
    else lower steps ((x.div? (powerOfTen 308)).getD x) (k - 308)

/-- The double for a significand of 64 bits and a decimal exponent, by one multiplication or by
divisions; none when it is infinite. -/
def scale? (negative : Bool) (significand : Nat) (exponent : Int) : Option Binary64 :=
  let x := (Binary64.nearest? false significand 1).getD (Binary64.zero false)
  let result :=
    if significand = 0 then some x
    else if 0 ≤ exponent then
      if 308 < exponent then none else x.mul? (powerOfTen exponent.toNat)
    else some (lower 4 x (-exponent).toNat)
  result.map (withSign negative)

/-- The value of a numeral: an integer if it is spelled as one and fits 64 bits, else a double, and
none if that is infinite.  The spelling of minus zero is a double.  Digits that no longer fit a
significand of 64 bits only count as places. -/
def value? (n : Numeral) : Option Json :=
  let (significand, dropped) := absorb 0 n.whole
  match n.fraction, n.exponent with
  | none, none =>
    if 0 < dropped then (scale? n.negative significand dropped).map .float
    else if !n.negative then some (.int significand)
    else if significand = 0 ∨ 0x8000000000000000 < significand then
      (scale? true significand 0).map .float
    else some (.int (-(significand : Int)))
  | fraction, exponent =>
    let digits := fraction.getD []
    let (significand, spare) := absorb significand digits
    let start : Int := (dropped : Int) - ((digits.length - spare : Nat) : Int)
    match exponent with
    | none => (scale? n.negative significand start).map .float
    | some (down, places) =>
      let k := Text.digitsToNat places
      if 0x80000000 ≤ k then
        if significand = 0 ∨ down then some (.float (Binary64.zero n.negative)) else none
      else (scale? n.negative significand (if down then start - k else start + k)).map .float

end Numeral

namespace Node

def isSpace (c : Char) : Bool :=
  c == ' ' || c == '\n' || c == '\t' || c == '\r'

/-- A part of a string: a character, or an escape that is half of a surrogate pair. -/
inductive StringPart where
  | char (c : Char)
  | high (n : Nat)
  | low (n : Nat)

def partOf (n : Nat) : StringPart :=
  if 0xD800 ≤ n ∧ n < 0xDC00 then .high n
  else if 0xDC00 ≤ n ∧ n < 0xE000 then .low n
  else .char (Char.ofNat n)

def shortEscape? (c : Char) : Option Char :=
  match c with
  | '"' => some '"'
  | '\\' => some '\\'
  | '/' => some '/'
  | 'b' => some (Char.ofNat 8)
  | 'f' => some (Char.ofNat 12)
  | 'n' => some '\n'
  | 'r' => some '\r'
  | 't' => some '\t'
  | _ => none

/-- The parts of a string up to its closing quote, and what follows the quote. -/
def stringParts : Text → Option (List StringPart × Text)
  | [] => none
  | '"' :: s => some ([], s)
  | '\\' :: 'u' :: a :: b :: c :: d :: s => do
    let n ← Text.ofDigits? 16 [a, b, c, d]
    let (parts, rest) ← stringParts s
    return (partOf n :: parts, rest)
  | '\\' :: c :: s => do
    let e ← shortEscape? c
    let (parts, rest) ← stringParts s
    return (.char e :: parts, rest)
  | c :: s => do
    if c.toNat < 32 then none
    let (parts, rest) ← stringParts s
    return (.char c :: parts, rest)

/-- The text of the parts of a string, if every half of a surrogate pair has its other half. -/
def joinParts : List StringPart → Option Text
  | [] => some []
  | .char c :: parts => (joinParts parts).map (c :: ·)
  | .high h :: .low l :: parts =>
    (joinParts parts).map (Char.ofNat (0x10000 + (h - 0xD800) * 0x400 + (l - 0xDC00)) :: ·)
  | .high _ :: _ => none
  | .low _ :: _ => none

def readString (s : Text) : Option (Option Text × Text) :=
  (stringParts s).map fun (parts, rest) ↦ (joinParts parts, rest)

def someDigits (s : Text) : Option (Text × Text) :=
  match s.span Char.isDigit with
  | ([], _) => none
  | (digits, rest) => some (digits, rest)

/-- The whole part of a number: a zero alone, or digits that do not start with one. -/
def wholePart (s : Text) : Option (Text × Text) :=
  match s with
  | '0' :: c :: rest => if c.isDigit then none else some (['0'], c :: rest)
  | _ => someDigits s

def fractionPart (s : Text) : Option (Option Text × Text) :=
  match s with
  | '.' :: rest => (someDigits rest).map fun (digits, rest) ↦ (some digits, rest)
  | _ => some (none, s)

def exponentDigits (down : Bool) (s : Text) : Option (Option (Bool × Text) × Text) :=
  (someDigits s).map fun (digits, rest) ↦ (some (down, digits), rest)

def exponentPart (s : Text) : Option (Option (Bool × Text) × Text) :=
  match s with
  | c :: rest =>
    if c = 'e' ∨ c = 'E' then
      match rest with
      | '+' :: rest => exponentDigits false rest
      | '-' :: rest => exponentDigits true rest
      | _ => exponentDigits false rest
    else some (none, s)
  | [] => some (none, [])

def readNumber (negative : Bool) (s : Text) : Option (Node × Text) := do
  let (whole, s) ← wholePart s
  let (fraction, s) ← fractionPart s
  let (exponent, s) ← exponentPart s
  return (.number ⟨negative, whole, fraction, exponent⟩, s)

/-- A literal word, of which the first letter has been read. -/
def word (node : Node) (rest s : Text) : Option (Node × Text) :=
  (rest.isPrefixOf? s).map fun s ↦ (node, s)

def skipSpace (s : Text) : Text :=
  s.dropWhile isSpace

mutual

/-- Reads a value; `fuel` bounds the number of values and separators met. -/
def readValue : Nat → Text → Option (Node × Text)
  | 0, _ => none
  | fuel + 1, s =>
    match skipSpace s with
    | 'n' :: s => word .null "ull".toList s
    | 't' :: s => word (.bool true) "rue".toList s
    | 'f' :: s => word (.bool false) "alse".toList s
    | '"' :: s => (readString s).map fun (t, s) ↦ (.string t, s)
    | '-' :: s => readNumber true s
    | '[' :: s =>
      match skipSpace s with
      | ']' :: s => some (.array [], s)
      | s => (readItems fuel s).map fun (items, s) ↦ (Node.array items, s)
    | '\x7b' :: s =>
      match skipSpace s with
      | '\x7d' :: s => some (.object [], s)
      | s => (readFields fuel s).map fun (fields, s) ↦ (Node.object fields, s)
    | s => readNumber false s

def readItems : Nat → Text → Option (List Node × Text)
  | 0, _ => none
  | fuel + 1, s => do
    let (item, s) ← readValue fuel s
    match skipSpace s with
    | ']' :: s => return ([item], s)
    | ',' :: s =>
      let (items, s) ← readItems fuel s
      return (item :: items, s)
    | _ => none

def readFields : Nat → Text → Option (List (Option Text × Node) × Text)
  | 0, _ => none
  | fuel + 1, s =>
    match skipSpace s with
    | '"' :: s => do
      let (name, s) ← readString s
      match skipSpace s with
      | ':' :: s =>
        let (value, s) ← readValue fuel s
        match skipSpace s with
        | '\x7d' :: s => return ([(name, value)], s)
        | ',' :: s =>
          let (fields, s) ← readFields fuel s
          return ((name, value) :: fields, s)
        | _ => none
      | _ => none
    | _ => none

end

/-- The tree of a text that is one JSON value and blanks around it. -/
def read? (s : Text) : Option Node :=
  match readValue (2 * s.length + 2) s with
  | some (node, rest) => if rest.all isSpace then some node else none
  | none => none

/-- The value of a tree in which every number and string is sound; `room` collections may be nested
at most. -/
def value? : Nat → Node → Option Json
  | _, .null => some .null
  | _, .bool b => some (.bool b)
  | _, .number n => n.value?
  | _, .string s => s.map .text
  | 0, .array _ => none
  | 0, .object _ => none
  | room + 1, .array items => (items.mapM (value? room)).map .array
  | room + 1, .object fields => do
    let fields ← fields.mapM fun (name, node) ↦ do return (← name, ← value? room node)
    return ofFields fields

end Node

def deepestNesting : Nat := 127

def read? (s : Text) : Option Json :=
  (Node.read? s).bind (Node.value? deepestNesting)

end Json

end EndpointDocs
