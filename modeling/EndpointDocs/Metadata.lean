import EndpointDocs.Endpoint
import EndpointDocs.Error
import EndpointDocs.Json.Document
import EndpointDocs.TypeInfo
import EndpointDocs.Yaml.Document

/-!
# Metadata

What is known of an application: its declared types and its endpoints.
-/

namespace EndpointDocs

/-- The types and endpoints of an application. -/
structure Metadata where
  types : TypeTable
  endpoints : List Endpoint
deriving Repr

namespace Metadata

def decodeEndpoints {ν : Type} {m : Type → Type} [Monad m] [Document ν m] (node : ν) :
    m (List Endpoint) := do
  (← Document.items node).mapM Endpoint.decode

/-- Reads metadata with the names of types as they are spelled. -/
def decode {ν : Type} {m : Type → Type} [Monad m] [Document ν m] (node : ν) : m Metadata := do
  let fields ← Document.fields ["types".toList, "endpoints".toList] node
  return {
    types := ← fields.withDefault "types".toList [] TypeTable.decode
    endpoints := ← fields.withDefault "endpoints".toList [] decodeEndpoints }

def canonicalize (metadata : Metadata) : Metadata :=
  { metadata with types := metadata.types.canonicalize }

def ofJson? (s : Text) : Option Metadata :=
  (Json.Node.read? s).bind fun node ↦ decode (Json.Cursor.root node)

/-- The metadata of a text, which is YAML where it is not acceptable as JSON. -/
def ofText (s : Text) : Except DocError Metadata :=
  match ofJson? s with
  | some metadata => .ok metadata.canonicalize
  | none =>
    match Yaml.decode? decode s with
    | some metadata => .ok metadata.canonicalize
    | none => .error .yaml

/-- The first endpoint whose handler has a key. -/
def endpoint? (metadata : Metadata) (key : Text) : Option Endpoint :=
  metadata.endpoints.find? fun endpoint ↦ endpoint.key == key

/-- Changes the comment of the first endpoint whose handler has a key. -/
def setComment (key : Text) (comment : Option Text) : List Endpoint → List Endpoint
  | [] => []
  | endpoint :: others =>
    if endpoint.key == key then { endpoint with docComment := comment } :: others
    else endpoint :: setComment key comment others

end Metadata

end EndpointDocs
