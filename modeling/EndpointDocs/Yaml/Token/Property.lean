import EndpointDocs.Yaml.Token.Scalar

/-!
# Anchors, tags and directives

The tokens that name a node, give it a type or speak about the document as a whole.
-/

namespace EndpointDocs

namespace Yaml

namespace Property

def nameOf (s : Text) : Text :=
  s.takeWhile isNameChar

/-- The name after the sign of an anchor or an alias.  It is not empty and ends before a blank or
one of a few indicators. -/
def anchor? (h : Head) : Except Fault (Text × Head) :=
  let h := h.advance 1
  let name := nameOf h.rest
  let h := h.advance name.length
  if name.isEmpty then .error .brokenAnchor
  else if endsWord h.rest || h.rest.head?.any ("?:,]\x7d%@\x60".toList.contains ·) then
    .ok (name, h)
  else .error .brokenAnchor

/-- The characters of tags; a few more belong to a tag between angle brackets. -/
def isTagChar (wide : Bool) (c : Char) : Bool :=
  isNameChar c || ";/?:@&=+$.%!~*'()".toList.contains c || wide && ",[]".toList.contains c

def furtherBytes? (first : UInt8) : Option Nat :=
  if first < 0x80 then some 0
  else if 0xC0 ≤ first ∧ first < 0xE0 then some 1
  else if 0xE0 ≤ first ∧ first < 0xF0 then some 2
  else if 0xF0 ≤ first ∧ first < 0xF8 then some 3
  else none

def percentByte? (s : Text) : Option UInt8 :=
  match s with
  | '%' :: a :: b :: _ => (Text.ofDigits? 16 [a, b]).map UInt8.ofNat
  | _ => none

def percentTail? : Nat → Text → Option TagName
  | 0, _ => some []
  | n + 1, s => do
    let byte ← percentByte? s
    if 0x80 ≤ byte ∧ byte < 0xC0 then return byte :: (← percentTail? n (s.drop 3)) else none

/-- The bytes written with percent signs at the start of a text, as many as the first one asks for.
Whether they are those of a character is not looked at. -/
def percentBytes? (s : Text) : Option TagName := do
  let first ← percentByte? s
  return first :: (← percentTail? (← furtherBytes? first) (s.drop 3))

def tagChars (wide : Bool) : Nat → Head → Except Fault (TagName × Head)
  | 0, _ => .error .tooLong
  | fuel + 1, h =>
    match h.rest with
    | [] => .ok ([], h)
    | c :: _ =>
      if !isTagChar wide c then .ok ([], h)
      else if c = '%' then
        match percentBytes? h.rest with
        | none => .error .brokenTag
        | some bytes =>
          (tagChars wide fuel (h.advance (3 * bytes.length))).map fun (name, h) ↦ (bytes ++ name, h)
      else (tagChars wide fuel (h.advance 1)).map fun (name, h) ↦ (c.toUInt8 :: name, h)

/-- The rest of a tag of which `lead` has been read, up to a zero byte.  The whole must be written
with a character at least. -/
def tagRest (wide : Bool) (lead : Text) (h : Head) : Except Fault (TagName × Head) := do
  let (name, h) ← tagChars wide (h.rest.length + 1) h
  if lead.isEmpty && name.isEmpty then .error .brokenTag
  else return ((TagName.ofText (lead.drop 1) ++ name).untilZero, h)

/-- A tag handle: an exclamation mark, name characters and perhaps a second mark. -/
def handle? (h : Head) : Option (Text × Head) :=
  if h.atChar '!' then
    let name := nameOf (h.advance 1).rest
    let h := h.advance (1 + name.length)
    if h.atChar '!' then some ('!' :: (name ++ ['!']), h.advance 1) else some ('!' :: name, h)
  else none

def isFullHandle (handle : Text) : Bool :=
  2 ≤ handle.length && handle.getLast? == some '!'

def tag? (inFlow : Bool) (h : Head) : Except Fault (Text × TagName × Head) := do
  let (handle, suffix, h) ←
    if (h.advance 1).atChar '<' then
      let (suffix, h) ← tagRest true [] (h.advance 2)
      if h.atChar '>' then .ok (([] : Text), suffix, h.advance 1) else .error .brokenTag
    else match handle? h with
      | none => .error .brokenTag
      | some (handle, h) =>
        if isFullHandle handle then do
          let (suffix, h) ← tagRest false [] h
          .ok (handle, suffix, h)
        else do
          let (suffix, h) ← tagRest false handle h
          if suffix.isEmpty then .ok ([], TagName.ofText ['!'], h) else .ok (['!'], suffix, h)
  if endsWord h.rest || inFlow && h.atChar ',' then return (handle, suffix, h)
  else .error .brokenTag

def versionNumber? (h : Head) : Option (Nat × Head) :=
  let digits := h.rest.takeWhile Char.isDigit
  if digits.isEmpty || 9 < digits.length then none
  else some (Text.digitsToNat digits, h.advance digits.length)

def version? (h : Head) : Option (Token × Head) := do
  let (major, h) ← versionNumber? h.skipSpaces
  if !h.atChar '.' then none
  let (minor, h) ← versionNumber? (h.advance 1)
  return (.versionDirective major minor, h)

def tagDirective? (h : Head) : Option (Token × Head) := do
  let (handle, h) ← handle? h.skipSpaces
  if !isFullHandle handle && handle != ['!'] then none
  if !h.rest.head?.any isSpace then none
  let (lead, h) ← (tagRest true [] h.skipSpaces).toOption
  if endsWord h.rest then return (.tagDirective handle lead, h) else none

def directive? (h : Head) : Option (Token × Head) := do
  let h := h.advance 1
  let name := nameOf h.rest
  let h := h.advance name.length
  if name.isEmpty || !endsWord h.rest then none
  let (token, h) ←
    if name = "YAML".toList then version? h
    else if name = "TAG".toList then tagDirective? h
    else none
  return (token, ← h.finishLine)

end Property

end Yaml

end EndpointDocs
