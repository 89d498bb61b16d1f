import EndpointDocs.Yaml.Token.Property

/-!
# The token stream of a text

Tokens are read from left to right with the indentation of the open block collections at hand.  A
scalar, a flow collection, an anchor or a tag may turn out to be a key when a colon follows on the
same line; the place of its token is remembered until then.
-/

namespace EndpointDocs

namespace Yaml

/-- A token that may yet turn out to be a key. -/
structure PossibleKey where
  /-- Whether nothing but a key may stand there. -/
  isRequired : Bool
  /-- How many tokens stand before it. -/
  token : Nat
  index : Nat
  line : Nat
  column : Nat
deriving Repr

structure TokenStream where
  head : Head
  tokens : Array Token
  /-- The column of the innermost block collection, or `-1`. -/
  indent : Int
  /-- The columns of the collections around it. -/
  outer : List Int
  /-- Whether a key may start under the head. -/
  keyAllowed : Bool
  /-- The possible key of the innermost collection in flow style, or of the block around it. -/
  key : Option PossibleKey
  /-- The possible keys of the collections around it, one for each level of flow style. -/
  outerKeys : List (Option PossibleKey)

namespace TokenStream

def start (s : Text) : TokenStream where
  head := Head.start s
  tokens := #[]
  indent := -1
  outer := []
  keyAllowed := true
  key := none
  outerKeys := []

def inFlow (s : TokenStream) : Bool :=
  !s.outerKeys.isEmpty

def push (s : TokenStream) (token : Token) : TokenStream :=
  { s with tokens := s.tokens.push token }

/-- Passes over blanks, comments and ends of lines.  A tab counts as a blank only where no key may
start, and a byte order mark may start a line. -/
def skipBlank : Nat → TokenStream → TokenStream
  | 0, s => s
  | fuel + 1, s =>
    let h := s.head
    let h := if h.column = 0 ∧ h.atChar '\ufeff' then h.advance 1 else h
    let blank (c : Char) : Bool := c == ' ' || (s.inFlow || !s.keyAllowed) && c == '\t'
    let h := h.advance (h.rest.takeWhile blank).length
    let h := if h.atChar '#' then h.skipLineRest else h
    if h.atBreak then
      skipBlank fuel { s with head := h.takeBreak.2, keyAllowed := s.keyAllowed || !s.inFlow }
    else { s with head := h }

/-- A possible key that is still one under the head; it is none on a later line or after more than
1024 bytes. -/
def freshKey? (h : Head) (key : Option PossibleKey) : Except Fault (Option PossibleKey) :=
  match key with
  | none => .ok none
  | some k =>
    if k.line < h.line ∨ k.index + 1024 < h.index then
      if k.isRequired then .error .missingColon else .ok none
    else .ok (some k)

def dropStaleKeys (s : TokenStream) : Except Fault TokenStream := do
  let key ← freshKey? s.head s.key
  let outerKeys ← s.outerKeys.mapM (freshKey? s.head)
  return { s with key := key, outerKeys := outerKeys }

def dropKey (s : TokenStream) : Except Fault TokenStream :=
  match s.key with
  | some k => if k.isRequired then .error .missingColon else .ok { s with key := none }
  | none => .ok s

def saveKey (s : TokenStream) : Except Fault TokenStream :=
  if s.keyAllowed then do
    let s ← s.dropKey
    let isRequired := !s.inFlow && s.indent == (s.head.column : Int)
    return { s with
      key := some ⟨isRequired, s.tokens.size, s.head.index, s.head.line, s.head.column⟩ }
  else .ok s

/-- Opens a block collection at a column right of the innermost one, its token standing after the
first `place` tokens. -/
def indentTo (s : TokenStream) (column place : Nat) (token : Token) : TokenStream :=
  if s.inFlow || !decide (s.indent < (column : Int)) then s
  else
    { s with
      indent := column
      outer := s.indent :: s.outer
      tokens := s.tokens.insertIdxIfInBounds place token }

def closeTo (column : Int) : List Int → Array Token → Int → List Int × Array Token × Int
  | [], tokens, indent => ([], tokens, indent)
  | next :: outer, tokens, indent =>
    if column < indent then closeTo column outer (tokens.push .blockEnd) next
    else (next :: outer, tokens, indent)

def unindentTo (s : TokenStream) (column : Int) : TokenStream :=
  if s.inFlow then s
  else
    let (outer, tokens, indent) := closeTo column s.outer s.tokens s.indent
    { s with outer := outer, tokens := tokens, indent := indent }

/-- A token of `n` characters that stands for itself. -/
def mark (s : TokenStream) (token : Token) (n : Nat) : TokenStream :=
  { s.push token with head := s.head.advance n }

def closeAll (s : TokenStream) : Except Fault TokenStream := do
  let s ← (s.unindentTo (-1)).dropKey
  return { s with keyAllowed := false }

def directive (s : TokenStream) : Except Fault TokenStream := do
  let s ← s.closeAll
  match Property.directive? s.head with
  | none => .error .brokenDirective
  | some (token, h) => return { s.push token with head := h }

def documentMark (s : TokenStream) (token : Token) : Except Fault TokenStream := do
  return (← s.closeAll).mark token 3

def openFlow (s : TokenStream) (token : Token) : Except Fault TokenStream := do
  let s ← s.saveKey
  return { s.mark token 1 with key := none, outerKeys := s.key :: s.outerKeys, keyAllowed := true }

def closeFlow (s : TokenStream) (token : Token) : Except Fault TokenStream := do
  let s ← s.dropKey
  let s := match s.outerKeys with
    | [] => s
    | key :: outerKeys => { s with key := key, outerKeys := outerKeys }
  return { s.mark token 1 with keyAllowed := false }

def flowEntry (s : TokenStream) : Except Fault TokenStream := do
  return { (← s.dropKey).mark .flowEntry 1 with keyAllowed := true }

def blockEntry (s : TokenStream) : Except Fault TokenStream := do
  if !s.inFlow && !s.keyAllowed then .error .misplacedEntry
  let s := s.indentTo s.head.column s.tokens.size .blockSequenceStart
  return { (← s.dropKey).mark .blockEntry 1 with keyAllowed := true }

def keyMark (s : TokenStream) : Except Fault TokenStream := do
  if !s.inFlow && !s.keyAllowed then .error .misplacedKey
  let s := s.indentTo s.head.column s.tokens.size .blockMappingStart
  return { (← s.dropKey).mark .key 1 with keyAllowed := !s.inFlow }

/-- The colon before a value.  A possible key on the line becomes the key; without one a value may
start only where a key may. -/
def valueMark (s : TokenStream) : Except Fault TokenStream :=
  match s.key with
  | some k =>
    let s := { s with tokens := s.tokens.insertIdxIfInBounds k.token .key, key := none }
    let s := s.indentTo k.column k.token .blockMappingStart
    .ok { s.mark .value 1 with keyAllowed := false }
  | none =>
    if !s.inFlow && !s.keyAllowed then .error .misplacedValue
    else
      let s := s.indentTo s.head.column s.tokens.size .blockMappingStart
      .ok { s.mark .value 1 with keyAllowed := !s.inFlow }

def anchor (s : TokenStream) (token : Text → Token) : Except Fault TokenStream := do
  let s ← s.saveKey
  let (name, h) ← Property.anchor? s.head
  return { s.push (token name) with head := h, keyAllowed := false }

def tag (s : TokenStream) : Except Fault TokenStream := do
  let s ← s.saveKey
  let (handle, suffix, h) ← Property.tag? s.inFlow s.head
  return { s.push (.tag handle suffix) with head := h, keyAllowed := false }

def blockScalar (s : TokenStream) (literal : Bool) : Except Fault TokenStream := do
  let s ← s.dropKey
  let (text, h) ← Scalar.block literal s.indent s.head
  let token := Token.scalar (if literal then .literal else .folded) text
  return { s.push token with head := h, keyAllowed := true }

def quotedScalar (s : TokenStream) (single : Bool) : Except Fault TokenStream := do
  let s ← s.saveKey
  let (text, h) ← Scalar.quoted single s.head
  let token := Token.scalar (if single then .singleQuoted else .doubleQuoted) text
  return { s.push token with head := h, keyAllowed := false }

def plainScalar (s : TokenStream) : Except Fault TokenStream := do
  let s ← s.saveKey
  let (text, broken, h) ← Scalar.plain (s.indent + 1).toNat s.inFlow s.head
  return { s.push (.scalar .plain text) with head := h, keyAllowed := broken }

def startsPlain (inFlow : Bool) (c : Char) (t : Text) : Bool :=
  !isGap c && !"-?:,[]\x7b\x7d#&*!|>'\"%@\x60".toList.contains c ||
    c == '-' && !t.head?.any isSpace ||
    !inFlow && (c == '?' || c == ':') && !endsWord t

def readToken (s : TokenStream) (c : Char) (t : Text) : Except Fault TokenStream :=
  if s.head.column == 0 && c == '%' then s.directive
  else if s.head.column == 0 && Head.startsMark '-' s.head.rest then s.documentMark .documentStart
  else if s.head.column == 0 && Head.startsMark '.' s.head.rest then s.documentMark .documentEnd
  else if c == '[' then s.openFlow .flowSequenceStart
  else if c == '\x7b' then s.openFlow .flowMappingStart
  else if c == ']' then s.closeFlow .flowSequenceEnd
  else if c == '\x7d' then s.closeFlow .flowMappingEnd
  else if c == ',' then s.flowEntry
  else if c == '-' && endsWord t then s.blockEntry
  else if c == '?' && (s.inFlow || endsWord t) then s.keyMark
  else if c == ':' && (s.inFlow || endsWord t) then s.valueMark
  else if c == '*' then s.anchor .alias
  else if c == '&' then s.anchor .anchor
  else if c == '!' then s.tag
  else if c == '|' && !s.inFlow then s.blockScalar true
  else if c == '>' && !s.inFlow then s.blockScalar false
  else if c == '\'' then s.quotedScalar true
  else if c == '"' then s.quotedScalar false
  else if startsPlain s.inFlow c t then s.plainScalar
  else .error .strayCharacter

def readAll : Nat → TokenStream → Except Fault (List Token)
  | 0, _ => .error .tooLong
  | fuel + 1, s => do
    let s ← (skipBlank (s.head.rest.length + 1) s).dropStaleKeys
    let s := s.unindentTo s.head.column
    match s.head.rest with
    | [] =>
      let s ← (s.unindentTo (-1)).dropKey
      return s.tokens.toList
    | c :: t => readAll fuel (← s.readToken c t)

end TokenStream

def Token.ofText (s : Text) : Except Fault (List Token) :=
  if s.all isAllowed then TokenStream.readAll (s.length + 1) (TokenStream.start s)
  else .error .forbiddenCharacter

end Yaml

end EndpointDocs
