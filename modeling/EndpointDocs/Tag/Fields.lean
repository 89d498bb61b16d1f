import EndpointDocs.ParamType
import EndpointDocs.Tag.Kind

/-!
# The fields of a tag

A tag holds a name, a type, the word `required` and a description, each but the last being one word.
The type of a body tag is whatever word follows the name.  The type of a url tag is there only when
it is spelled canonically and the word `required` follows it.
-/

namespace EndpointDocs

structure TagFields where
  name : Text
  typeToken : Option Text
  isRequired : Bool
  description : Text
deriving DecidableEq, Repr

def requiredWord : Text := "required".toList

namespace TagFields

/-- The type after the name and what follows it. -/
def typeToken? (kind : TagKind) (s : Text) : Option Text × Text :=
  match Text.nextWord? s with
  | none => (none, s)
  | some (token, rest) =>
    match kind with
    | .body => (some token, rest)
    | .url =>
      match Text.nextWord? rest with
      | some (word, _) =>
        if word == requiredWord && ParamType.isSpelling token then (some token, rest) else (none, s)
      | none => (none, s)

/-- Whether the next word marks the parameter as required, and what follows that mark. -/
def takeRequired (s : Text) : Bool × Text :=
  match Text.nextWord? s with
  | some (word, rest) => if word == requiredWord then (true, rest) else (false, s)
  | none => (false, s)

/-- The fields of a tag; none when the tag is blank. -/
def ofContent? (kind : TagKind) (content : Text) : Option TagFields :=
  match Text.nextWord? content with
  | none => none
  | some (name, rest) =>
    let (typeToken, rest) := typeToken? kind rest
    let (isRequired, rest) := takeRequired rest
    some ⟨name, typeToken, isRequired, Text.trim rest⟩

end TagFields

end EndpointDocs
