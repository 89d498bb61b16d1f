import EndpointDocs.Document
import EndpointDocs.Json.Node

/-!
# JSON documents

JSON texts and JSON values as documents.  A record is an object or a list of its fields in order.
Collections of a text are nested to a limited depth, of which those passed over are no part.
-/

namespace EndpointDocs

namespace Json

/-- A node of a JSON text and how many collections may still be nested in it. -/
structure Cursor where
  room : Nat
  node : Node

namespace Cursor

def root (node : Node) : Cursor :=
  ⟨deepestNesting, node⟩

def text? : Cursor → Option Text
  | ⟨_, .string s⟩ => s
  | _ => none

def flag? : Cursor → Option Bool
  | ⟨_, .bool b⟩ => some b
  | _ => none

def json? (c : Cursor) : Option Json :=
  Node.value? c.room c.node

def word? (c : Cursor) : Option UInt64 :=
  match c.json? with
  | some (.int (.ofNat n)) => some (UInt64.ofNat n)
  | _ => none

def presence? (c : Cursor) : Option (Option Cursor) :=
  match c.node with
  | .null => some none
  | _ => some (some c)

def items? : Cursor → Option (List Cursor)
  | ⟨room + 1, .array items⟩ => some (items.map (⟨room, ·⟩))
  | _ => none

/-- The fields of an object, whose names must be texts. -/
def entries? : Cursor → Option (List (Text × Cursor))
  | ⟨room + 1, .object fields⟩ =>
    fields.mapM fun (name, node) ↦ name.map fun name ↦ (name, ⟨room, node⟩)
  | _ => none

def fields? (known : List Text) (c : Cursor) : Option (Fields Cursor) :=
  match c.node with
  | .array _ => do return ⟨← Document.listedFields? known (← c.items?), true⟩
  | _ => do return ⟨← Document.knownFields? known (← c.entries?), false⟩

instance : Document Cursor Option where
  refuse := none
  text := text?
  flag := flag?
  word := word?
  json := json?
  presence? := presence?
  items := items?
  entries := entries?
  fields := fields?

end Cursor

def fields? (known : List Text) : Json → Option (Fields Json)
  | .array items => (Document.listedFields? known items).map (⟨·, true⟩)
  | .object fields => (Document.knownFields? known fields).map (⟨·, false⟩)
  | _ => none

instance : Document Json Option where
  refuse := none
  text := Json.text?
  flag value := match value with
    | .bool b => some b
    | _ => none
  word value := match value with
    | .int (.ofNat n) => if n < 0x10000000000000000 then some (UInt64.ofNat n) else none
    | _ => none
  json := some
  presence? value := match value with
    | .null => some none
    | value => some (some value)
  items value := match value with
    | .array items => some items
    | _ => none
  entries value := match value with
    | .object fields => some fields
    | _ => none
  fields := Json.fields?

end Json

end EndpointDocs
