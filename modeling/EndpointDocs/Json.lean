import EndpointDocs.Decimal.Layout

/-!
# JSON values

The free-form values of this library: example values, static properties of types, and every result
that is written as JSON or YAML.  The fields of an object stand in the order in which they are
written; objects that are read keep theirs sorted by name.
-/

namespace EndpointDocs

inductive Json where
  | null
  | bool (b : Bool)
  | int (n : Int)
  | float (x : Binary64)
  | text (s : Text)
  | array (items : List Json)
  | object (fields : List (Text × Json))
deriving Repr, Inhabited

namespace Json

def text? : Json → Option Text
  | .text s => some s
  | _ => none

/-- Puts a value under a name into fields sorted by name, in the place of an earlier value. -/
def insertField (name : Text) (value : Json) : List (Text × Json) → List (Text × Json)
  | [] => [(name, value)]
  | (other, v) :: fields =>
    if name < other then (name, value) :: (other, v) :: fields
    else if name = other then (name, value) :: fields
    else (other, v) :: insertField name value fields

/-- The object of fields in any order; of two under one name the later counts. -/
def ofFields (fields : List (Text × Json)) : Json :=
  .object (fields.foldl (fun sorted (name, value) ↦ insertField name value sorted) [])

/-- Doubles in JSON: positional for exponents from -5 to 15, else scientific with a signed
exponent. -/
def floatLayout : FloatLayout where
  leastPlain := -5
  greatestPlain := 15
  positiveSign := ['+']

def hexDigit (n : Nat) : Char :=
  Nat.digitChar n

def escapeChar (c : Char) : Text :=
  match c with
  | '"' => "\\\"".toList
  | '\\' => "\\\\".toList
  | '\n' => "\\n".toList
  | '\r' => "\\r".toList
  | '\t' => "\\t".toList
  | _ =>
    let n := c.toNat
    if n = 8 then "\\b".toList
    else if n = 12 then "\\f".toList
    else if n < 32 then "\\u00".toList ++ [hexDigit (n / 16), hexDigit (n % 16)]
    else [c]

def quote (s : Text) : Text :=
  '"' :: (s.flatMap escapeChar ++ ['"'])

mutual

def write : Json → Text
  | .null => "null".toList
  | .bool b => if b then "true".toList else "false".toList
  | .int n => Text.ofInt n
  | .float x => floatLayout.write x
  | .text s => quote s
  | .array items => '[' :: (writeItems items ++ [']'])
  | .object fields => '\x7b' :: (writeFields fields ++ ['\x7d'])

def writeItems : List Json → Text
  | [] => []
  | [item] => write item
  | item :: items => write item ++ ',' :: writeItems items

def writeFields : List (Text × Json) → Text
  | [] => []
  | [(name, value)] => quote name ++ ':' :: write value
  | (name, value) :: fields => quote name ++ ':' :: (write value ++ ',' :: writeFields fields)

end

def newLine (indent : Nat) : Text :=
  '\n' :: List.replicate (2 * indent) ' '

mutual

/-- The spelling of a value with one item or field a line; `indent` is the depth it stands at. -/
def writePretty (indent : Nat) : Json → Text
  | .array (item :: items) =>
    '[' :: (newLine (indent + 1) ++ writePretty (indent + 1) item ++
      (prettyItems (indent + 1) items ++ (newLine indent ++ [']'])))
  | .object ((name, value) :: fields) =>
    '\x7b' :: (newLine (indent + 1) ++ quote name ++ ':' :: ' ' ::
      (writePretty (indent + 1) value ++
        (prettyFields (indent + 1) fields ++ (newLine indent ++ ['\x7d']))))
  | value => write value

def prettyItems (indent : Nat) : List Json → Text
  | [] => []
  | item :: items => ',' :: (newLine indent ++ writePretty indent item ++ prettyItems indent items)

def prettyFields (indent : Nat) : List (Text × Json) → Text
  | [] => []
  | (name, value) :: fields =>
    ',' :: (newLine indent ++ quote name ++ ':' :: ' ' ::
      (writePretty indent value ++ prettyFields indent fields))

end

end Json

end EndpointDocs
