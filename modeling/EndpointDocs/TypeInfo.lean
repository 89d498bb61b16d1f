import EndpointDocs.Document
import EndpointDocs.Table
import EndpointDocs.TypeName

/-!
# Types of an application

What is known of a declared type, and the table of the declared types by canonical name.
-/

namespace EndpointDocs

structure TypeInfo where
  /-- Its parents and interfaces, or all its ancestors. -/
  ancestors : List Text
  staticProperties : Table Json
  docComment : Option Text
deriving Repr, Inhabited

/-- The declared types of an application by canonical name. -/
abbrev TypeTable := Table TypeInfo

namespace TypeInfo

/-- The static property of a name, if it is a text. -/
def staticText? (info : TypeInfo) (name : Text) : Option Text :=
  (info.staticProperties.get? name).bind Json.text?

def fieldNames : List Text :=
  ["ancestors".toList, "static_properties".toList, "doc_comment".toList]

variable {ν : Type} {m : Type → Type} [Monad m] [Document ν m]

def decodeProperties (node : ν) : m (Table Json) := do
  let entries ← (← Document.entries node).mapM fun entry ↦ do
    return (entry.1, ← Document.json entry.2)
  return Table.ofEntries entries

def decode (node : ν) : m TypeInfo := do
  let fields ← Document.fields fieldNames node
  return {
    ancestors := ← fields.withDefault "ancestors".toList [] Document.texts
    staticProperties := ← fields.withDefault "static_properties".toList [] decodeProperties
    docComment := ← fields.optional "doc_comment".toList Document.text }

end TypeInfo

namespace TypeTable

/-- What is known of the type with a name in any spelling. -/
def info? (types : TypeTable) (name : Text) : Option TypeInfo :=
  types.get? (TypeName.canonical name)

def declares (types : TypeTable) (name : Text) : Bool :=
  (types.info? name).isSome

def docComment? (types : TypeTable) (name : Text) : Option Text :=
  (types.info? name).bind (·.docComment)

/-- The table with every name in canonical form; of two names that become one, the later counts. -/
def canonicalize (types : TypeTable) : TypeTable :=
  Table.ofEntries (types.map fun entry ↦ (TypeName.canonical entry.1, entry.2))

def decode {ν : Type} {m : Type → Type} [Monad m] [Document ν m] (node : ν) : m TypeTable := do
  let entries ← (← Document.entries node).mapM fun entry ↦ do
    return (entry.1, ← TypeInfo.decode entry.2)
  return Table.ofEntries entries

end TypeTable

end EndpointDocs
