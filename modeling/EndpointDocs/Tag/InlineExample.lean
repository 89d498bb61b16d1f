import EndpointDocs.ParamType.Cast
import EndpointDocs.Text.Pattern

/-!
# Inline examples

A description may end with an example, written after a marker as in `The user's age. Example: 42`.
The pattern of such a description is any characters of a line, the marker at the edge of a word,
blanks, at least one character of a line, and blanks.
-/

namespace EndpointDocs

namespace InlineExample

def marker : Text := "Example:".toList

def inLine (c : Char) : Bool := c != '\n'

/-- The description and the literal around a marker, as the pattern takes them at a place. -/
def pattern (place : Place) : Option (Text × Text) :=
  Pattern.many inLine place fun described edge ↦
    Pattern.wordEdge edge fun edge ↦
      Pattern.literal marker edge fun after ↦
        Pattern.many isBlank after fun _ first ↦
          Pattern.atLeastOne inLine first fun shown after ↦
            Pattern.many isBlank after fun _ _ ↦
              some (place.rest.take described, first.rest.take shown)

/-- The trimmed description and literal of a text with an inline example. -/
def split? (raw : Text) : Option (Text × Text) :=
  (Pattern.first? pattern raw).map fun (description, literal) ↦
    (Text.trim description, Text.trim literal)

end InlineExample

/-- A description without its inline example, and the value of that example for a type. -/
def describe (raw : Text) (t : ParamType) : Text × Option Json :=
  match InlineExample.split? raw with
  | some (description, literal) => (description, some (t.cast literal))
  | none => (Text.trim raw, none)

end EndpointDocs
