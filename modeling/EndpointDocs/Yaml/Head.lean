import EndpointDocs.Text.Basic

/-!
# Reading heads

A reading head stands at a place of a YAML text and knows its line and column.  This module holds
the character classes of YAML, the causes for which a text is refused, and the moves of the head.
-/

namespace EndpointDocs

namespace Yaml

inductive Fault where
  | forbiddenCharacter
  | strayCharacter
  | tabAsIndentation
  | brokenDirective
  | brokenAnchor
  | brokenTag
  | brokenBlockHeader
  | brokenEscape
  | unclosedQuote
  | colonInFlow
  | misplacedEntry
  | misplacedKey
  | misplacedValue
  | missingColon
  | missingDocumentStart
  | missingNode
  | missingEnd
  | unknownTagHandle
  | unknownAnchor
  | secondDocument
  | tooLong
deriving Repr, DecidableEq

def isAllowed (c : Char) : Bool :=
  let n := c.toNat
  n == 0x9 || n == 0xA || n == 0xD || (0x20 ≤ n && n ≤ 0x7E) || n == 0x85 ||
    (0xA0 ≤ n && n ≤ 0xD7FF) || (0xE000 ≤ n && n ≤ 0xFFFD) || 0x10000 ≤ n

def isBreak (c : Char) : Bool :=
  c == '\n' || c == '\r' || c == '\u0085' || c == '\u2028' || c == '\u2029'

def isSpace (c : Char) : Bool :=
  c == ' ' || c == '\t'

def isGap (c : Char) : Bool :=
  isSpace c || isBreak c

def isNameChar (c : Char) : Bool :=
  c.isAlphanum || c == '_' || c == '-'

/-- Whether a text is at its end or goes on with a blank or the end of a line. -/
def endsWord : Text → Bool
  | [] => true
  | c :: _ => isGap c

/-- A place in a text: what is left to read and where it stands. -/
structure Head where
  rest : Text
  /-- How many bytes stand before it in UTF-8. -/
  index : Nat
  line : Nat
  column : Nat
deriving Repr

namespace Head

def start (s : Text) : Head :=
  ⟨s, 0, 0, 0⟩

/-- The head `n` characters further on the same line. -/
def advance (h : Head) (n : Nat) : Head :=
  ⟨h.rest.drop n, h.index + Text.byteCount (h.rest.take n), h.line, h.column + n⟩

/-- The end of a line under the head, as it counts in a scalar, and the head after it.  A carriage
return and a line feed are one end, and only the separators of lines and paragraphs keep their own
character. -/
def takeBreak (h : Head) : Text × Head :=
  match h.rest with
  | '\r' :: '\n' :: s => (['\n'], ⟨s, h.index + 2, h.line + 1, 0⟩)
  | c :: s =>
    (if c = '\u2028' ∨ c = '\u2029' then [c] else ['\n'],
      ⟨s, h.index + c.utf8Size, h.line + 1, 0⟩)
  | [] => ([], h)

def skipSpaces (h : Head) : Head :=
  h.advance (h.rest.takeWhile isSpace).length

def skipLineRest (h : Head) : Head :=
  h.advance (h.rest.takeWhile fun c ↦ !isBreak c).length

def atGap (h : Head) : Bool :=
  match h.rest with
  | [] => false
  | c :: _ => isGap c

def atBreak (h : Head) : Bool :=
  match h.rest with
  | [] => false
  | c :: _ => isBreak c

def atChar (h : Head) (c : Char) : Bool :=
  h.rest.head? == some c

/-- Whether a text goes on with three marks and then ends its word. -/
def startsMark (mark : Char) (s : Text) : Bool :=
  match s with
  | a :: b :: c :: t => a == mark && b == mark && c == mark && endsWord t
  | _ => false

/-- Whether a line starts under the head with the mark that opens or the mark that closes a
document. -/
def atDocumentMark (h : Head) : Bool :=
  h.column == 0 && (startsMark '-' h.rest || startsMark '.' h.rest)

/-- The head after the rest of a line that holds nothing but blanks and a comment. -/
def finishLine (h : Head) : Option Head :=
  let h := h.skipSpaces
  let h := if h.atChar '#' then h.skipLineRest else h
  if h.rest.isEmpty then some h
  else if h.atBreak then some h.takeBreak.2
  else none

end Head

end Yaml

end EndpointDocs
