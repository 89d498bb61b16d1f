import EndpointDocs.Yaml.Token

/-!
# The text of scalars

Plain and quoted scalars are runs of characters with gaps between them; a gap with an end of line is
folded.  Block scalars are lines under a header that fixes their indentation and their end.
-/

namespace EndpointDocs

namespace Yaml

/-- Blanks and ends of lines between two runs of a scalar. -/
structure Gap where
  /-- The blanks, as long as no line has ended. -/
  blanks : Text
  /-- The end of the first line. -/
  first? : Option Text
  /-- The ends of the lines after it. -/
  others : Text

namespace Gap

def empty : Gap :=
  ⟨[], none, []⟩

/-- A gap after an end of line that does not count. -/
def afterEscape : Gap :=
  ⟨[], some [], []⟩

def broken (gap : Gap) : Bool :=
  gap.first?.isSome

/-- What a gap stands for: its blanks, or a space for a single end of line, or the ends of the
further lines. -/
def joined (gap : Gap) : Text :=
  match gap.first? with
  | none => gap.blanks
  | some ['\n'] => if gap.others.isEmpty then [' '] else gap.others
  | some first => first ++ gap.others

/-- Reads on in a gap.  A tab left of the column `limit` on a further line is refused. -/
def read (limit : Nat) : Nat → Gap → Head → Except Fault (Gap × Head)
  | 0, gap, h => .ok (gap, h)
  | fuel + 1, gap, h =>
    match h.rest with
    | [] => .ok (gap, h)
    | c :: _ =>
      if isSpace c then
        if gap.broken then
          if c = '\t' ∧ h.column < limit then .error .tabAsIndentation
          else read limit fuel gap (h.advance 1)
        else read limit fuel { gap with blanks := gap.blanks ++ [c] } (h.advance 1)
      else if isBreak c then
        let (text, h) := h.takeBreak
        if gap.broken then read limit fuel { gap with others := gap.others ++ text } h
        else read limit fuel { gap with first? := some text } h
      else .ok (gap, h)

end Gap

namespace Scalar

/-- The characters of a plain scalar up to a gap or an indicator. -/
def plainRun (inFlow : Bool) : Text → Except Fault Text
  | [] => .ok []
  | c :: s =>
    if isGap c then .ok []
    else if inFlow && c == ':' && s.head?.any (",?[]\x7b\x7d".toList.contains ·) then
      .error .colonInFlow
    else if c == ':' && endsWord s then .ok []
    else if inFlow && ",[]\x7b\x7d".toList.contains c then .ok []
    else (plainRun inFlow s).map (c :: ·)

/-- Reads on in a plain scalar, of which `text` has been read and then a gap that stands for `gap`.
The result says whether the last gap ends a line. -/
def plainFrom (indent : Nat) (inFlow : Bool) :
    Nat → Text → Text → Bool → Head → Except Fault (Text × Bool × Head)
  | 0, _, _, _, _ => .error .tooLong
  | fuel + 1, text, gap, broken, h =>
    if h.atDocumentMark || h.atChar '#' then .ok (text, broken, h)
    else do
      let run ← plainRun inFlow h.rest
      if run.isEmpty then return (text, broken, h)
      let text := text ++ gap ++ run
      let h := h.advance run.length
      if !h.atGap then return (text, false, h)
      let (gap, h) ← Gap.read indent h.rest.length .empty h
      if !inFlow && h.column < indent then return (text, gap.broken, h)
      plainFrom indent inFlow fuel text gap.joined gap.broken h

def plain (indent : Nat) (inFlow : Bool) (h : Head) : Except Fault (Text × Bool × Head) :=
  plainFrom indent inFlow (h.rest.length + 1) [] [] false h

def shortEscape? (c : Char) : Option Char :=
  match c with
  | '0' => some (Char.ofNat 0)
  | 'a' => some (Char.ofNat 7)
  | 'b' => some (Char.ofNat 8)
  | 't' => some '\t'
  | '\t' => some '\t'
  | 'n' => some '\n'
  | 'v' => some (Char.ofNat 11)
  | 'f' => some (Char.ofNat 12)
  | 'r' => some '\r'
  | 'e' => some (Char.ofNat 27)
  | ' ' => some ' '
  | '"' => some '"'
  | '/' => some '/'
  | '\\' => some '\\'
  | 'N' => some '\u0085'
  | '_' => some '\u00A0'
  | 'L' => some '\u2028'
  | 'P' => some '\u2029'
  | _ => none

def codeLength? (c : Char) : Option Nat :=
  match c with
  | 'x' => some 2
  | 'u' => some 4
  | 'U' => some 8
  | _ => none

def codedChar? (digits : Text) : Option Char := do
  let n ← Text.ofDigits? 16 digits
  if n.isValidChar then some (Char.ofNat n) else none

/-- The character for what stands after a backslash, and the length of that. -/
def escape? (s : Text) : Option (Char × Nat) :=
  match s with
  | [] => none
  | c :: digits =>
    match codeLength? c with
    | none => (shortEscape? c).map (·, 1)
    | some n =>
      if digits.length < n then none else (codedChar? (digits.take n)).map (·, n + 1)

/-- A run of a quoted scalar: its text, its length as written, and whether a backslash before the
end of a line stopped it. -/
structure QuotedRun where
  text : Text
  length : Nat
  escapedBreak : Bool

def QuotedRun.cons (c : Char) (n : Nat) (run : QuotedRun) : QuotedRun :=
  { run with text := c :: run.text, length := n + run.length }

/-- The characters of a single-quoted scalar up to a gap or the closing quote; a quote written twice
is one. -/
def singleRun : Text → QuotedRun
  | '\'' :: '\'' :: s => (singleRun s).cons '\'' 2
  | c :: s => if c == '\'' || isGap c then ⟨[], 0, false⟩ else (singleRun s).cons c 1
  | [] => ⟨[], 0, false⟩

def doubleRun : Nat → Text → Except Fault QuotedRun
  | 0, _ => .error .tooLong
  | fuel + 1, s =>
    match s with
    | [] => .ok ⟨[], 0, false⟩
    | '\\' :: t =>
      if t.head?.any isBreak then .ok ⟨[], 0, true⟩
      else match escape? t with
        | none => .error .brokenEscape
        | some (c, n) => (doubleRun fuel (t.drop n)).map (·.cons c (n + 1))
    | c :: t =>
      if c == '"' || isGap c then .ok ⟨[], 0, false⟩
      else (doubleRun fuel t).map (·.cons c 1)

def quotedFrom (single : Bool) : Nat → Text → Head → Except Fault (Text × Head)
  | 0, _, _ => .error .tooLong
  | fuel + 1, text, h =>
    if h.atDocumentMark || h.rest.isEmpty then .error .unclosedQuote
    else do
      let run ← if single then .ok (singleRun h.rest) else doubleRun (h.rest.length + 1) h.rest
      let text := text ++ run.text
      let h := h.advance run.length
      let h := if run.escapedBreak then (h.advance 1).takeBreak.2 else h
      if h.atChar (if single then '\'' else '"') then return (text, h.advance 1)
      let start := if run.escapedBreak then Gap.afterEscape else Gap.empty
      let (gap, h) ← Gap.read 0 h.rest.length start h
      quotedFrom single fuel (text ++ gap.joined) h

def quoted (single : Bool) (h : Head) : Except Fault (Text × Head) :=
  quotedFrom single (h.rest.length + 1) [] (h.advance 1)

/-- What becomes of the ends of lines after the last line of a block scalar. -/
inductive Chomping where
  | strip
  | clip
  | keep
deriving Repr, DecidableEq

def chomping? (c : Char) : Option Chomping :=
  if c = '+' then some .keep else if c = '-' then some .strip else none

/-- The chomping and the indentation digit of a block header, in either order, and the length of
both; a zero is no indentation. -/
def blockHeader (s : Text) : Except Fault (Chomping × Nat × Nat) :=
  let digit (c : Char) : Except Fault Nat :=
    if c = '0' then .error .brokenBlockHeader else .ok (c.toNat - '0'.toNat)
  match s with
  | a :: t =>
    match chomping? a, t with
    | some chomping, b :: _ =>
      if b.isDigit then (digit b).map (chomping, ·, 2) else .ok (chomping, 0, 1)
    | some chomping, [] => .ok (chomping, 0, 1)
    | none, t =>
      if a.isDigit then
        match t.head?.bind chomping? with
        | some chomping => (digit a).map (chomping, ·, 2)
        | none => (digit a).map (.clip, ·, 1)
      else .ok (.clip, 0, 0)
  | [] => .ok (.clip, 0, 0)

/-- Passes over the blank lines of a block scalar whose indentation is `indent`, or not yet known if
that is zero.  Gives the ends of these lines and the greatest column reached. -/
def blankLines (indent : Nat) : Nat → Text → Nat → Head → Except Fault (Text × Nat × Head)
  | 0, _, _, _ => .error .tooLong
  | fuel + 1, breaks, widest, h =>
    let spaces := (h.rest.takeWhile (· == ' ')).length
    let h := h.advance (if indent = 0 then spaces else min spaces (indent - h.column))
    let widest := max widest h.column
    if (indent = 0 ∨ h.column < indent) ∧ h.atChar '\t' then .error .tabAsIndentation
    else if h.atBreak then
      let (text, h) := h.takeBreak
      blankLines indent fuel (breaks ++ text) widest h
    else .ok (breaks, widest, h)

/-- The ends of the blank lines under the head, the indentation of the block scalar and the head
after them; an unknown indentation becomes the greatest column, but at least `least`. -/
def blockBreaks (least indent : Nat) (h : Head) : Except Fault (Text × Nat × Head) := do
  let (breaks, widest, h) ← blankLines indent (h.rest.length + 1) [] 0 h
  let indent := if indent = 0 then max (max widest least) 1 else indent
  return (breaks, indent, h)

/-- What is known of a block scalar between two of its lines: its text so far, the end of the last
line, the ends of the blank lines after it, and whether that line starts with a blank. -/
structure BlockSoFar where
  text : Text
  lastBreak : Text
  breaks : Text
  spaced : Bool

/-- The text so far with the ends of lines before a line; in a folded scalar a single end between
two lines that start with no blank becomes a space. -/
def BlockSoFar.open (literal : Bool) (block : BlockSoFar) (spaced : Bool) : Text :=
  if !literal && block.lastBreak == ['\n'] && !block.spaced && !spaced then
    block.text ++ (if block.breaks.isEmpty then [' '] else []) ++ block.breaks
  else block.text ++ block.lastBreak ++ block.breaks

def blockFrom (literal : Bool) (indent : Nat) :
    Nat → BlockSoFar → Head → Except Fault (BlockSoFar × Head)
  | 0, _, _ => .error .tooLong
  | fuel + 1, block, h =>
    if h.column = indent ∧ !h.rest.isEmpty then do
      let spaced := h.rest.head?.any isSpace
      let line := h.rest.takeWhile fun c ↦ !isBreak c
      let text := block.open literal spaced ++ line
      let (lastBreak, h) := (h.advance line.length).takeBreak
      let (breaks, _, h) ← blockBreaks 0 indent h
      blockFrom literal indent fuel ⟨text, lastBreak, breaks, spaced⟩ h
    else .ok (block, h)

def block (literal : Bool) (parent : Int) (h : Head) : Except Fault (Text × Head) := do
  let h := h.advance 1
  let (chomping, digit, length) ← blockHeader h.rest
  match (h.advance length).finishLine with
  | none => .error .brokenBlockHeader
  | some h =>
    let indent := if digit = 0 then 0 else if 0 ≤ parent then parent.toNat + digit else digit
    let (breaks, indent, h) ← blockBreaks (parent + 1).toNat indent h
    let (block, h) ← blockFrom literal indent (h.rest.length + 1) ⟨[], [], breaks, false⟩ h
    let text := match chomping with
      | .strip => block.text
      | .clip => block.text ++ block.lastBreak
      | .keep => block.text ++ block.lastBreak ++ block.breaks
    return (text, h)

end Scalar

end Yaml

end EndpointDocs
