import EndpointDocs.Text.Blank
import EndpointDocs.Text.Letter

/-!
# Patterns

The parts of search patterns: greedy repetition of a class of characters, a literal, and the edge of
a word.  A part goes on with the rest of the pattern from every place where it can end, the longest
first, until the rest succeeds.
-/

namespace EndpointDocs

/-- A place in a text: the character before it and what stands after it. -/
structure Place where
  before : Option Char
  rest : Text
deriving Repr

namespace Place

/-- Whether exactly one side of a place belongs to a word. -/
def atWordEdge (place : Place) : Bool :=
  place.before.any isWordChar != place.rest.head?.any isWordChar

end Place

namespace Pattern

variable {α : Type}

/-- As many characters of a class as possible, then the rest of the pattern, which is told their
number beyond `taken`. -/
def manyFrom (p : Char → Bool) (next : Nat → Place → Option α) :
    Nat → Option Char → Text → Option α
  | taken, before, [] => next taken ⟨before, []⟩
  | taken, before, c :: s =>
    if p c then
      match manyFrom p next (taken + 1) (some c) s with
      | some found => some found
      | none => next taken ⟨before, c :: s⟩
    else next taken ⟨before, c :: s⟩

def many (p : Char → Bool) (place : Place) (next : Nat → Place → Option α) : Option α :=
  manyFrom p next 0 place.before place.rest

def atLeastOne (p : Char → Bool) (place : Place) (next : Nat → Place → Option α) : Option α :=
  many p place fun taken place ↦ if taken = 0 then none else next taken place

def wordEdge (place : Place) (next : Place → Option α) : Option α :=
  if place.atWordEdge then next place else none

def literal (s : Text) (place : Place) (next : Place → Option α) : Option α :=
  match s.isPrefixOf? place.rest with
  | none => none
  | some rest => next ⟨s.getLast?, rest⟩

/-- The match of a pattern that starts furthest to the left. -/
def firstFrom (pattern : Place → Option α) : Option Char → Text → Option α
  | before, [] => pattern ⟨before, []⟩
  | before, c :: s =>
    match pattern ⟨before, c :: s⟩ with
    | some found => some found
    | none => firstFrom pattern (some c) s

def first? (pattern : Place → Option α) (s : Text) : Option α :=
  firstFrom pattern none s

end Pattern

end EndpointDocs
