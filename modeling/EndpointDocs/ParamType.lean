import EndpointDocs.Text.Blank
import EndpointDocs.Text.Case

/-!
# Parameter types

The types a documented parameter can have, their canonical spelling, and the reading of a type from
a free-form token.  Reading never fails: a token that names no type is a string, and collection
wrappers beyond a fixed depth are left in the token.
-/

namespace EndpointDocs

inductive ParamType where
  | string
  | integer
  | number
  | boolean
  | file
  | object
  | array
  /-- An array with items of one type. -/
  | arrayOf (item : ParamType)
  /-- An object with values of one type. -/
  | objectOf (value : ParamType)
deriving DecidableEq, Repr, Inhabited

namespace ParamType

def spelling : ParamType → Text
  | string => "string".toList
  | integer => "integer".toList
  | number => "number".toList
  | boolean => "boolean".toList
  | file => "file".toList
  | object => "object".toList
  | array => "array".toList
  | arrayOf item => item.spelling ++ "[]".toList
  | objectOf value => "object<".toList ++ value.spelling ++ ">".toList

def nesting : ParamType → Nat
  | arrayOf item => item.nesting + 1
  | objectOf value => value.nesting + 1
  | _ => 0

def nestingLimit : Nat := 8

def aliases : List (ParamType × List String) := [
  (string, ["string", "str", "text"]),
  (integer, ["int", "integer"]),
  (number, ["float", "double", "number", "numeric", "decimal"]),
  (boolean, ["bool", "boolean"]),
  (file, ["file", "image"]),
  (object, ["object", "obj", "map"]),
  (array, ["array", "list"])]

/-- The type a token is a name of, in any case. -/
def ofAlias? (token : Text) : Option ParamType :=
  (aliases.find? fun entry ↦ entry.2.any fun name ↦ name.toList == token.lower).map (·.1)

/-- What stands between the first `<` and a `>` at the end. -/
def angleArgument? (token : Text) : Option (Text × Text) :=
  match token.span (· != '<') with
  | (_, []) => none
  | (head, _ :: rest) => (">".toList.isSuffixOf? rest).map (head, ·)

/-- The type token of the values in an object token, which is not blank. -/
def objectArgument? (token : Text) : Option Text :=
  match angleArgument? token with
  | none => none
  | some (head, inner) =>
    if (head.lower == "object".toList || head.lower == "map".toList) &&
        !(Text.trim inner).isEmpty then some inner
    else none

inductive Wrapper where
  | arrayOf
  | objectOf
deriving DecidableEq, Repr

def Wrapper.wrap : Wrapper → ParamType → ParamType
  | .arrayOf, t => .arrayOf t
  | .objectOf, t => .objectOf t

/-- The outermost wrapper of a token and the token inside it. -/
def unwrapOnce? (token : Text) : Option (Wrapper × Text) :=
  match "[]".toList.isSuffixOf? token with
  | some inner => some (.arrayOf, Text.trim inner)
  | none => (objectArgument? token).map fun inner ↦ (.objectOf, Text.trim inner)

/-- Takes up to `n` wrappers off a token, the outermost first. -/
def unwrap : Nat → Text → List Wrapper × Text
  | 0, token => ([], token)
  | n + 1, token =>
    match unwrapOnce? token with
    | none => ([], token)
    | some (wrapper, inner) =>
      let (wrappers, core) := unwrap n inner
      (wrapper :: wrappers, core)

/-- The type a token stands for. -/
def ofToken (token : Text) : ParamType :=
  let (wrappers, core) := unwrap nestingLimit (Text.trim token)
  wrappers.foldr Wrapper.wrap ((ofAlias? core).getD string)

def isSpelling (token : Text) : Bool :=
  (ofToken token).spelling == token

end ParamType

end EndpointDocs
