import EndpointDocs.Text.Basic

/-!
# Blanks

The blanks are the characters with the Unicode property White_Space.  Trimming and the splitting
into words are with respect to them.
-/

namespace EndpointDocs

def isBlank (c : Char) : Bool :=
  let n := c.toNat
  (0x9 ≤ n && n ≤ 0xD) || n == 0x20 || n == 0x85 || n == 0xA0 || n == 0x1680 ||
    (0x2000 ≤ n && n ≤ 0x200A) || n == 0x2028 || n == 0x2029 || n == 0x202F || n == 0x205F ||
    n == 0x3000

namespace Text

def trimStart (s : Text) : Text :=
  s.dropWhile isBlank

def trimEnd (s : Text) : Text :=
  dropEndWhile isBlank s

def trim (s : Text) : Text :=
  trimEnd (trimStart s)

/-- The longest front part without blanks, and what follows it. -/
def splitBlank (s : Text) : Text × Text :=
  s.span fun c ↦ !isBlank c

/-- The first word of a text and what follows that word, when the text is not all blank. -/
def nextWord? (s : Text) : Option (Text × Text) :=
  match trimStart s with
  | [] => none
  | c :: t => some (splitBlank (c :: t))

end Text

end EndpointDocs
