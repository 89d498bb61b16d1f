import EndpointDocs.Yaml.Head
import EndpointDocs.Yaml.Plain

/-!
# Writing YAML

A value as one document in block style.  A text is written plain where that reads back as the same
text, else in single quotes, in double quotes when it holds a character that cannot be printed, and
as a literal block when it has more than one line.
-/

namespace EndpointDocs

namespace Yaml

/-- A pen that writes from left to right and knows where on its line it stands. -/
structure Pen where
  /-- What is written, the last character first. -/
  reversed : Text
  column : Nat
  /-- Whether the last thing written leaves no need for a space. -/
  spaced : Bool
  /-- Whether nothing but indentation and its marks is on the line. -/
  indenting : Bool

namespace Pen

def fresh : Pen :=
  ⟨[], 0, true, true⟩

def put (pen : Pen) (c : Char) : Pen :=
  { pen with reversed := c :: pen.reversed, column := pen.column + 1 }

def puts (pen : Pen) (s : Text) : Pen :=
  s.foldl put pen

def endLine (pen : Pen) (c : Char) : Pen :=
  { pen with reversed := c :: pen.reversed, column := 0 }

/-- Goes to a column at the start of a line, on a new line unless this one is still free. -/
def indentTo (pen : Pen) (column : Nat) : Pen :=
  let pen :=
    if !pen.indenting || column < pen.column || (pen.column == column && !pen.spaced) then
      pen.endLine '\n'
    else pen
  let pen := pen.puts (List.replicate (column - pen.column) ' ')
  { pen with spaced := true, indenting := true }

def indicator (pen : Pen) (s : Text) (needsSpace spaced indenting : Bool) : Pen :=
  let pen := if needsSpace && !pen.spaced then pen.put ' ' else pen
  let pen := pen.puts s
  { pen with spaced := spaced, indenting := pen.indenting && indenting }

def endScalar (pen : Pen) : Pen :=
  { pen with spaced := false, indenting := false }

end Pen

def isPrintable (c : Char) : Bool :=
  let n := c.toNat
  n == 0xA || (0x20 ≤ n && n ≤ 0x7E) || (0xA0 ≤ n && n ≠ 0xFEFF && n ≠ 0xFFFE && n ≠ 0xFFFF)

inductive Shape where
  | plain
  | single
  | double
  | literal
deriving Repr, DecidableEq

namespace Shape

/-- Whether some character satisfies `p` and the next one satisfies `q`. -/
def hasPair (p q : Char → Bool) : Text → Bool
  | a :: b :: s => p a && q b || hasPair p q (b :: s)
  | _ => false

def startsIndicator (s : Text) : Bool :=
  match s with
  | [] => false
  | c :: t =>
    Head.startsMark '-' (s.take 3) || Head.startsMark '.' (s.take 3) ||
      "#,[]\x7b\x7d&*!|>'\"%@\x60".toList.contains c ||
      "?:-".toList.contains c && endsWord t

/-- Whether a colon ends a word after the start, or a number sign follows a blank. -/
def holdsIndicator (s : Text) : Bool :=
  s.tail.getLast? == some ':' || hasPair (· == ':') isGap s.tail || hasPair isGap (· == '#') s

/-- Whether a text cannot be quoted as it is: it holds a character that cannot be printed, or a
space before the end of a line. -/
def needsEscapes (s : Text) : Bool :=
  !s.all isPrintable || hasPair (· == ' ') isBreak s

def allowsPlain (s : Text) : Bool :=
  !(s.head? == some ' ' || s.getLast? == some ' ' || s.any isBreak || needsEscapes s ||
    startsIndicator s || holdsIndicator s)

def allowsSingle (s : Text) : Bool :=
  !(needsEscapes s || hasPair isBreak (· == ' ') s)

def allowsLiteral (s : Text) : Bool :=
  !(needsEscapes s || s.getLast? == some ' ')

/-- The shape of a text, which is a key written on the line of its value where `simple` holds. -/
def ofText (simple : Bool) (s : Text) : Shape :=
  if s.contains '\n' then if allowsLiteral s && !simple then .literal else .double
  else if !Plain.isAmbiguous s && allowsPlain s then .plain
  else if allowsSingle s then .single
  else .double

end Shape

def hexDigits (width n : Nat) : Text :=
  let digits := (Nat.toDigits 16 n).map Char.toUpper
  List.replicate (width - digits.length) '0' ++ digits

def doubleQuotedChar (c : Char) : Text :=
  let n := c.toNat
  let letter? : Option Char :=
    if n = 0 then some '0' else if n = 7 then some 'a' else if n = 8 then some 'b'
    else if n = 9 then some 't' else if n = 10 then some 'n' else if n = 11 then some 'v'
    else if n = 12 then some 'f' else if n = 13 then some 'r' else if n = 27 then some 'e'
    else if c = '"' then some '"' else if c = '\\' then some '\\'
    else if n = 0x85 then some 'N' else if n = 0x2028 then some 'L'
    else if n = 0x2029 then some 'P' else none
  match letter? with
  | some letter => ['\\', letter]
  | none =>
    if isPrintable c then [c]
    else if n ≤ 0xFF then '\\' :: 'x' :: hexDigits 2 n
    else if n ≤ 0xFFFF then '\\' :: 'u' :: hexDigits 4 n
    else '\\' :: 'U' :: hexDigits 8 n

namespace Pen

/-- Writes a character that may end a line; at the start of a line the indentation comes first. -/
def putLined (column : Nat) (pen : Pen) (c : Char) : Pen :=
  if isBreak c then { pen.endLine c with indenting := true }
  else
    let pen := if pen.column = 0 then pen.indentTo column else pen
    { pen.put c with indenting := false }

def plain (pen : Pen) (s : Text) : Pen :=
  let pen := if !pen.spaced && !s.isEmpty then pen.put ' ' else pen
  (pen.puts s).endScalar

def single (pen : Pen) (column : Nat) (s : Text) : Pen :=
  let pen := pen.indicator ['\''] true false false
  let pen := s.foldl
    (fun pen c ↦ if c = '\'' then (pen.putLined column c).put c else pen.putLined column c) pen
  let pen := if pen.column = 0 then pen.indentTo column else pen
  (pen.indicator ['\''] false false false).endScalar

def double (pen : Pen) (s : Text) : Pen :=
  let pen := pen.indicator ['"'] true false false
  ((pen.puts (s.flatMap doubleQuotedChar)).indicator ['"'] false false false).endScalar

/-- What follows the indicator of a literal block: a digit where the first line starts with a blank
or is empty, and a sign for the ends of lines after the last line. -/
def literalHints (s : Text) : Text :=
  let digit := if s.head?.any fun c ↦ c == ' ' || isBreak c then ['2'] else []
  let sign := match s.reverse with
    | [] => ['-']
    | [c] => if isBreak c then ['+'] else ['-']
    | c :: d :: _ => if !isBreak c then ['-'] else if isBreak d then ['+'] else []
  digit ++ sign

def literal (pen : Pen) (column : Nat) (s : Text) : Pen :=
  let pen := (pen.indicator ['|'] true false false).puts (literalHints s)
  let pen := { pen.endLine '\n' with spaced := true, indenting := true }
  s.foldl (putLined column) pen

def text (pen : Pen) (simple : Bool) (column : Nat) (s : Text) : Pen :=
  match Shape.ofText simple s with
  | .plain => pen.plain s
  | .single => pen.single column s
  | .double => pen.double s
  | .literal => pen.literal column s

end Pen

/-- Doubles in YAML: as in JSON, but with no sign before a positive exponent. -/
def floatLayout : FloatLayout :=
  { Json.floatLayout with positiveSign := [] }

/-- Whether a key may stand on the line of its value: it is one line of at most 128 bytes. -/
def isSimpleKey (s : Text) : Bool :=
  !s.any isBreak && Text.byteCount s ≤ 128

def innerColumn : Option Nat → Nat
  | none => 0
  | some column => column + 2

def scalarColumn : Option Nat → Nat
  | none => 2
  | some column => column + 2

namespace Pen

def beginItem (pen : Pen) (column : Nat) : Pen :=
  (pen.indentTo column).indicator ['-'] true false true

def beginField (pen : Pen) (column : Nat) (name : Text) : Pen :=
  let pen := pen.indentTo column
  if isSimpleKey name then
    (pen.text true (column + 2) name).indicator [':'] false false false
  else
    let pen := (pen.indicator ['?'] true false true).text false (column + 2) name
    (pen.indentTo column).indicator [':'] true false true

/-- The column of a sequence, which is that of its mapping where it begins a line of its own. -/
def itemColumn (pen : Pen) (column : Option Nat) (inMapping : Bool) : Nat :=
  match column with
  | some column => if inMapping && !pen.indenting then column else column + 2
  | none => 0

end Pen

mutual

/-- Writes a value in the collection at a column; `inMapping` holds for the values of a mapping. -/
def writeValue (column : Option Nat) (inMapping : Bool) (pen : Pen) : Json → Pen
  | .null => pen.plain "null".toList
  | .bool b => pen.plain (if b then "true".toList else "false".toList)
  | .int n => pen.plain (Text.ofInt n)
  | .float x => pen.plain (floatLayout.write x)
  | .text s => pen.text false (scalarColumn column) s
  | .array items =>
    if items.isEmpty then (pen.indicator ['['] true true false).indicator [']'] false false false
    else writeItems (pen.itemColumn column inMapping) pen items
  | .object fields =>
    if fields.isEmpty then
      (pen.indicator ['\x7b'] true true false).indicator ['\x7d'] false false false
    else writeFields (innerColumn column) pen fields

def writeItems (column : Nat) (pen : Pen) : List Json → Pen
  | [] => pen
  | item :: items =>
    writeItems column (writeValue (some column) false (pen.beginItem column) item) items

def writeFields (column : Nat) (pen : Pen) : List (Text × Json) → Pen
  | [] => pen
  | (name, value) :: fields =>
    writeFields column (writeValue (some column) true (pen.beginField column name) value) fields

end

def write (value : Json) : Text :=
  ((writeValue none false Pen.fresh value).indentTo 0).reversed.reverse

end Yaml

end EndpointDocs
