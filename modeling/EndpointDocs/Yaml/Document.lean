import EndpointDocs.Document
import EndpointDocs.Yaml.Node
import EndpointDocs.Yaml.Plain

/-!
# YAML documents

YAML trees as documents.  Where a text is asked for, any scalar is one as it is written.  Where a
collection is asked for, a plain scalar of which nothing is written is an empty one.  Following an
alias counts against a limit that grows with the size of the tree, and collections are nested to a
limited depth.
-/

namespace EndpointDocs

namespace Yaml

/-- A step in the decoding of a tree, with the number of aliases followed so far. -/
abbrev Decode := StateT Nat Option

/-- A node of a tree and how many collections may still be nested in it. -/
structure Cursor where
  tree : Tree
  room : Nat
  node : Node

def deepestNesting : Nat := 128

def Tree.aliasLimit (tree : Tree) : Nat :=
  100 * tree.root.size

def Tree.follow (tree : Tree) : Node → Decode Node
  | .alias id => do
    let count := (← get) + 1
    set count
    if tree.aliasLimit < count then failure
    match tree.target? id with
    | some node => return node
    | none => failure
  | node => return node

/-- The value of a scalar with a tag.  A tag of the document's own allows no value; one that only
has the mark of such a tag counts for nothing before a plain scalar. -/
def taggedValue? (tag : TagName) (style : ScalarStyle) (s : Text) : Option Json :=
  if tag.isLocal then none
  else if tag = .core "bool" then (Plain.truth? s).map .bool
  else if tag = .core "int" then
    match Plain.integer? s with
    | some (.fits n) => some (.int n)
    | _ => none
  else if tag = .core "float" then Plain.number? s
  else if tag = .core "null" then if Plain.isNull s then some .null else none
  else if tag.hasMark && style == .plain then Plain.value? s
  else some (.text s)

def scalarValue? (tag : Option TagName) (style : ScalarStyle) (s : Text) : Option Json :=
  match tag with
  | some tag => taggedValue? tag style s
  | none => if style = .plain then Plain.value? s else some (.text s)

/-- The value of a node whose collections carry no tags of the document's own. -/
def Tree.json (tree : Tree) : Nat → Node → Decode Json
  | room, node => do
    match ← tree.follow node, room with
    | .scalar tag style s, _ =>
      match scalarValue? tag style s with
      | some value => return value
      | none => failure
    | .sequence tag items, room + 1 =>
      if tag.any TagName.isLocal then failure
      return .array (← items.mapM (json tree room))
    | .mapping tag entries, room + 1 =>
      if tag.any TagName.isLocal then failure
      let fields ← entries.mapM fun (key, value) ↦ do
        match ← tree.follow key with
        | .scalar _ _ name => return (name, ← json tree room value)
        | _ => failure
      return Json.ofFields fields
    | _, _ => failure

namespace Cursor

def root (tree : Tree) : Cursor :=
  ⟨tree, deepestNesting, tree.root⟩

def follow (c : Cursor) : Decode Cursor := do
  return { c with node := ← c.tree.follow c.node }

def text (c : Cursor) : Decode Text := do
  match (← c.follow).node with
  | .scalar _ _ s => return s
  | _ => failure

/-- Whether a scalar may be a number or a truth value: plain, or a literal block with the tag. -/
def isPlainOr (kind : String) (tag : Option TagName) (style : ScalarStyle) : Bool :=
  style == .plain || style == .literal && tag == some (.core kind)

def flag (c : Cursor) : Decode Bool := do
  match (← c.follow).node with
  | .scalar tag style s =>
    match if isPlainOr "bool" tag style then Plain.truth? s else none with
    | some b => return b
    | none => failure
  | _ => failure

def word (c : Cursor) : Decode UInt64 := do
  match (← c.follow).node with
  | .scalar tag style s =>
    match if isPlainOr "int" tag style then Plain.unsigned? 0xFFFFFFFFFFFFFFFF s else none with
    | some n => return UInt64.ofNat n
    | none => failure
  | _ => failure

def json (c : Cursor) : Decode Json :=
  c.tree.json c.room c.node

/-- A plain null is nothing; the tag for null allows nothing else. -/
def presence? (c : Cursor) : Decode (Option Cursor) := do
  let c ← c.follow
  match c.node with
  | .scalar none .plain s => return if s.isEmpty || Plain.isNull s then none else some c
  | .scalar (some tag) .plain s =>
    if tag = .core "null" then if Plain.isNull s then return none else failure
    else return some c
  | _ => return some c

def isBlank (c : Cursor) : Bool :=
  match c.node with
  | .scalar _ .plain [] => true
  | _ => false

def items (c : Cursor) : Decode (List Cursor) := do
  let c ← c.follow
  match c.node, c.room with
  | .sequence _ items, room + 1 => return items.map fun node ↦ { c with room := room, node := node }
  | _, _ => if c.isBlank then return [] else failure

def entries (c : Cursor) : Decode (List (Text × Cursor)) := do
  let c ← c.follow
  match c.node, c.room with
  | .mapping _ entries, room + 1 =>
    entries.mapM fun (key, value) ↦ do
      let name ← text { c with room := room, node := key }
      return (name, { c with room := room, node := value })
  | _, _ => if c.isBlank then return [] else failure

/-- A record is always a mapping. -/
def fields (known : List Text) (c : Cursor) : Decode (Fields Cursor) := do
  match Document.knownFields? known (← c.entries) with
  | some nodes => return ⟨nodes, false⟩
  | none => failure

instance : Document Cursor Decode where
  refuse := failure
  text := text
  flag := flag
  word := word
  json := json
  presence? := presence?
  items := items
  entries := entries
  fields := fields

end Cursor

def decode? {α : Type} (decode : Cursor → Decode α) (s : Text) : Option α :=
  match Tree.ofText s with
  | .error _ => none
  | .ok tree => ((decode (Cursor.root tree)).run 0).map (·.1)

end Yaml

end EndpointDocs
