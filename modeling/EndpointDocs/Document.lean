import EndpointDocs.Json

/-!
# Documents

What a decoder asks about a node of a document, whatever the format: its text, its items, its
entries or the fields of the record it stands for.  A format answers in a monad of its own, in which
a node that is not of the asked kind is refused.
-/

namespace EndpointDocs

/-- The fields of a record that a document gives, under their names. -/
structure Fields (ν : Type) where
  nodes : List (Text × ν)
  /-- Whether the document gives the fields as a list, in the order of the record. -/
  byPosition : Bool

/-- A format of documents with nodes `ν`. -/
class Document (ν : Type) (m : outParam (Type → Type)) where
  /-- The node is not of the kind asked for. -/
  refuse {α : Type} : m α
  text : ν → m Text
  flag : ν → m Bool
  word : ν → m UInt64
  json : ν → m Json
  /-- The node itself, unless it says that there is nothing. -/
  presence? : ν → m (Option ν)
  items : ν → m (List ν)
  entries : ν → m (List (Text × ν))
  /-- The fields with the given names; others are passed over, and a name given twice is refused. -/
  fields : List Text → ν → m (Fields ν)

namespace Document

/-- The nodes under known names, if no name is given twice. -/
def knownFields? {ν : Type} (known : List Text) : List (Text × ν) → Option (List (Text × ν))
  | [] => some []
  | (name, node) :: others => do
    let others ← knownFields? known others
    if !known.contains name then return others
    else if others.any fun entry ↦ entry.1 == name then none
    else return (name, node) :: others

def texts {ν : Type} {m : Type → Type} [Monad m] [Document ν m] (node : ν) : m (List Text) := do
  (← items node).mapM text

/-- The nodes of a record that is written as a list, if they are not too many. -/
def listedFields? {ν : Type} (known : List Text) (nodes : List ν) : Option (List (Text × ν)) :=
  if nodes.length ≤ known.length then some (known.zip nodes) else none

end Document

namespace Fields

variable {ν α : Type} {m : Type → Type} [Monad m] [Document ν m]

def node? (fields : Fields ν) (name : Text) : Option ν :=
  fields.nodes.lookup name

def required (fields : Fields ν) (name : Text) (decode : ν → m α) : m α :=
  match fields.node? name with
  | some node => decode node
  | none => Document.refuse ν

def withDefault (fields : Fields ν) (name : Text) (fallback : α) (decode : ν → m α) : m α :=
  match fields.node? name with
  | some node => decode node
  | none => pure fallback

/-- A field that may be absent or say that there is nothing. -/
def optional (fields : Fields ν) (name : Text) (decode : ν → m α) : m (Option α) :=
  match fields.node? name with
  | none => pure none
  | some node => do
    match ← Document.presence? node with
    | none => return none
    | some node => return some (← decode node)

end Fields

end EndpointDocs
