import EndpointDocs.Yaml.Token.Stream
import EndpointDocs.Table

/-!
# YAML nodes

The tree of the one document of a text.  An alias is a leaf that names an anchored node by a number,
so that a tree stays finite even where a node holds an alias of itself.
-/

namespace EndpointDocs

namespace Yaml

/-- A node of a document, with its tag in full. -/
inductive Node where
  | scalar (tag : Option TagName) (style : ScalarStyle) (text : Text)
  | sequence (tag : Option TagName) (items : List Node)
  | mapping (tag : Option TagName) (entries : List (Node × Node))
  | alias (id : Nat)
deriving Repr, Inhabited

mutual

/-- The number of marks in a node: one for a leaf and two for the ends of a collection. -/
def Node.size : Node → Nat
  | .scalar _ _ _ => 1
  | .alias _ => 1
  | .sequence _ items => 2 + itemsSize items
  | .mapping _ entries => 2 + entriesSize entries

def itemsSize : List Node → Nat
  | [] => 0
  | item :: items => item.size + itemsSize items

def entriesSize : List (Node × Node) → Nat
  | [] => 0
  | (key, value) :: entries => key.size + value.size + entriesSize entries

end

/-- An anchored node: the number its aliases have, and how many anchors stand before its own. -/
structure Anchored where
  id : Nat
  order : Nat
  node : Node

structure Tree where
  root : Node
  anchored : List Anchored

namespace Tree

/-- The node an alias stands for: of the anchored nodes with its number, the one anchored last. -/
def target? (tree : Tree) (id : Nat) : Option Node :=
  let hits := tree.anchored.filter (·.id == id)
  (hits.foldl (fun (best : Option Anchored) a ↦
    match best with
    | none => some a
    | some b => if b.order < a.order then some a else some b) none).map (·.node)

end Tree

/-- What is known while a tree is built: the tokens left, the handles of tags, the number of each
anchor name and the anchored nodes that are complete. -/
structure Builder where
  tokens : List Token
  handles : Table TagName
  ids : Table Nat
  anchored : List Anchored
  anchors : Nat

abbrev Build := StateT Builder (Except Fault)

namespace Build

def peek? : Build (Option Token) := do
  return (← get).tokens.head?

def skip : Build Unit :=
  modify fun b ↦ { b with tokens := b.tokens.drop 1 }

def skipIf (token : Token) : Build Bool := do
  if (← peek?) == some token then
    skip
    return true
  else return false

def isAt (tokens : List Token) : Build Bool := do
  match ← peek? with
  | some token => return tokens.contains token
  | none => return false

def expect (token : Token) : Build Unit := do
  if !(← skipIf token) then throw .missingEnd

def blank : Node :=
  .scalar none .plain []

def anchorName? : Build (Option Text) := do
  match ← peek? with
  | some (.anchor name) =>
    skip
    return some name
  | _ => return none

def tagName? : Build (Option TagName) := do
  match ← peek? with
  | some (.tag [] suffix) =>
    skip
    return some suffix
  | some (.tag handle suffix) =>
    skip
    match (← get).handles.get? handle with
    | some lead => return some (lead ++ suffix)
    | none => throw .unknownTagHandle
  | _ => return none

/-- The anchor and the tag before a node, in either order. -/
def properties : Build (Option Text × Option TagName) := do
  match ← anchorName? with
  | some name => return (some name, ← tagName?)
  | none =>
    let tag ← tagName?
    match tag with
    | some _ => return (← anchorName?, tag)
    | none => return (none, none)

/-- Gives an anchor name its number: the count of names so far. -/
def openAnchor (name : Option Text) : Build (Option (Nat × Nat)) := do
  match name with
  | none => return none
  | some name =>
    let b ← get
    let id := b.ids.length
    set { b with ids := b.ids.put name id, anchors := b.anchors + 1 }
    return some (id, b.anchors)

def closeAnchor (anchor : Option (Nat × Nat)) (node : Node) : Build Node := do
  match anchor with
  | none => return node
  | some (id, order) =>
    modify fun b ↦ { b with anchored := ⟨id, order, node⟩ :: b.anchored }
    return node

mutual

/-- Builds the node under the next token.  Block collections may start only where `inBlock` holds,
and items of a sequence may stand at the indentation of their mapping where `bare` holds. -/
def node : Nat → Bool → Bool → Build Node
  | 0, _, _ => throw .tooLong
  | fuel + 1, inBlock, bare => do
    match ← peek? with
    | some (.alias name) =>
      skip
      match (← get).ids.get? name with
      | some id => return .alias id
      | none => throw .unknownAnchor
    | _ =>
      let (name, tag) ← properties
      match ← peek? with
      | some .blockEntry =>
        if bare then
          let anchor ← openAnchor name
          closeAnchor anchor (.sequence tag (← bareItems fuel))
        else emptyNode name tag
      | some (.scalar style text) =>
        skip
        let anchor ← openAnchor name
        closeAnchor anchor (.scalar tag style text)
      | some .flowSequenceStart =>
        skip
        let anchor ← openAnchor name
        closeAnchor anchor (.sequence tag (← flowItems fuel true))
      | some .flowMappingStart =>
        skip
        let anchor ← openAnchor name
        closeAnchor anchor (.mapping tag (← flowEntries fuel true))
      | some .blockSequenceStart =>
        if inBlock then
          skip
          let anchor ← openAnchor name
          closeAnchor anchor (.sequence tag (← blockItems fuel))
        else emptyNode name tag
      | some .blockMappingStart =>
        if inBlock then
          skip
          let anchor ← openAnchor name
          closeAnchor anchor (.mapping tag (← blockEntries fuel))
        else emptyNode name tag
      | _ => emptyNode name tag

def emptyNode (name : Option Text) (tag : Option TagName) : Build Node := do
  if name.isNone && tag.isNone then throw .missingNode
  let anchor ← openAnchor name
  closeAnchor anchor (.scalar tag .plain [])

/-- A node, unless one of the given tokens or the end comes first. -/
def nodeUnless : Nat → List Token → Bool → Bool → Build Node
  | 0, _, _, _ => throw .tooLong
  | fuel + 1, ends, inBlock, bare => do
    if ← isAt ends then return blank else node fuel inBlock bare

def blockItems : Nat → Build (List Node)
  | 0 => throw .tooLong
  | fuel + 1 => do
    if ← skipIf .blockEntry then
      let item ← nodeUnless fuel [.blockEntry, .blockEnd] true false
      return item :: (← blockItems fuel)
    else
      expect .blockEnd
      return []

/-- The items of a sequence at the indentation of its mapping. -/
def bareItems : Nat → Build (List Node)
  | 0 => throw .tooLong
  | fuel + 1 => do
    if ← skipIf .blockEntry then
      let item ← nodeUnless fuel [.blockEntry, .key, .value, .blockEnd] true false
      return item :: (← bareItems fuel)
    else return []

def blockEntries : Nat → Build (List (Node × Node))
  | 0 => throw .tooLong
  | fuel + 1 => do
    if ← skipIf .key then
      let key ← nodeUnless fuel [.key, .value, .blockEnd] true true
      let value ←
        if ← skipIf .value then nodeUnless fuel [.key, .value, .blockEnd] true true
        else pure blank
      return (key, value) :: (← blockEntries fuel)
    else
      expect .blockEnd
      return []

/-- The items of a flow sequence and its end.  A key among them makes an item a mapping of one
entry. -/
def flowItems : Nat → Bool → Build (List Node)
  | 0, _ => throw .tooLong
  | fuel + 1, first => do
    if ← skipIf .flowSequenceEnd then return []
    if !first then expect .flowEntry
    if ← skipIf .flowSequenceEnd then return []
    let item ←
      if ← skipIf .key then
        let key ←
          if ← isAt [.value, .flowEntry, .flowSequenceEnd] then
            skip
            pure blank
          else node fuel false false
        let value ←
          if ← skipIf .value then nodeUnless fuel [.flowEntry, .flowSequenceEnd] false false
          else pure blank
        pure (.mapping none [(key, value)])
      else node fuel false false
    return item :: (← flowItems fuel false)

def flowEntries : Nat → Bool → Build (List (Node × Node))
  | 0, _ => throw .tooLong
  | fuel + 1, first => do
    if ← skipIf .flowMappingEnd then return []
    if !first then expect .flowEntry
    if ← skipIf .flowMappingEnd then return []
    let entry ←
      if ← skipIf .key then
        let key ← nodeUnless fuel [.value, .flowEntry, .flowMappingEnd] false false
        let value ←
          if ← skipIf .value then nodeUnless fuel [.flowEntry, .flowMappingEnd] false false
          else pure blank
        pure (key, value)
      else
        pure (← node fuel false false, blank)
    return entry :: (← flowEntries fuel false)

end

def defaultHandles : Table TagName :=
  [("!".toList, TagName.ofText "!".toList), ("!!".toList, TagName.core "")]

/-- The directives before a document: at most one version, and handles that are all different. -/
def directives : Nat → Bool → Table TagName → Build (Table TagName)
  | 0, _, _ => throw .tooLong
  | fuel + 1, versioned, handles => do
    match ← peek? with
    | some (.versionDirective major minor) =>
      if versioned || major != 1 || !(minor == 1 || minor == 2) then throw .brokenDirective
      skip
      directives fuel true handles
    | some (.tagDirective handle lead) =>
      if (handles.get? handle).isSome then throw .brokenDirective
      skip
      directives fuel versioned (handles.put handle lead)
    | _ => return handles

def withDefaults (handles : Table TagName) : Table TagName :=
  defaultHandles.foldl
    (fun handles (handle, lead) ↦
      if (handles.get? handle).isSome then handles else handles.put handle lead) handles

def atDirective : Build Bool := do
  match ← peek? with
  | some (.versionDirective _ _) => return true
  | some (.tagDirective _ _) => return true
  | _ => return false

def skipDocumentEnds : Nat → Build Unit
  | 0 => return ()
  | fuel + 1 => do
    if ← skipIf .documentEnd then skipDocumentEnds fuel

/-- The root of the one document of a text; a text without a document has a blank root. -/
def root (fuel : Nat) : Build Node := do
  if (← peek?).isNone then return blank
  let marked := (← atDirective) || (← isAt [.documentStart])
  let handles ← directives fuel false []
  modify fun b ↦ { b with handles := withDefaults handles }
  if marked then
    if !(← skipIf .documentStart) then throw .missingDocumentStart
  let empty ←
    if marked then
      pure ((← peek?).isNone || (← atDirective) || (← isAt [.documentStart, .documentEnd]))
    else pure false
  let root ← if empty then pure blank else node fuel true false
  skipDocumentEnds fuel
  if (← peek?).isSome then throw .secondDocument
  return root

end Build

def Tree.ofText (s : Text) : Except Fault Tree := do
  let tokens ← Token.ofText s
  let (root, b) ← (Build.root (4 * tokens.length + 8)).run ⟨tokens, [], [], [], 0⟩
  return ⟨root, b.anchored⟩

end Yaml

end EndpointDocs
