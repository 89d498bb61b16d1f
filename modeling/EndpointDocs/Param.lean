import EndpointDocs.Document
import EndpointDocs.ParamType
import EndpointDocs.Table

/-!
# Documented parameters

The record of one parameter, its JSON form, and the parameters of an endpoint by name.
-/

namespace EndpointDocs

/-- A documented parameter.  A parameter of the route has no type, and a parameter whose example is
suppressed has no value. -/
structure Param where
  name : Text
  type : Option ParamType
  isRequired : Bool
  description : Text
  value : Option Json
deriving Repr

/-- Parameters by name, in the order in which the names first occur. -/
abbrev ParamMap := Table Param

namespace Param

/-- The JSON form of a record: a missing type is left out and a missing value is null. -/
def toJson (p : Param) : Json :=
  .object
    (("name".toList, .text p.name) ::
      (p.type.toList.map fun t ↦ ("type".toList, Json.text t.spelling)) ++
      [("required".toList, .bool p.isRequired), ("description".toList, .text p.description),
        ("value".toList, p.value.getD .null)])

def fieldNames : List Text :=
  ["name".toList, "type".toList, "required".toList, "description".toList, "value".toList]

variable {ν : Type} {m : Type → Type} [Monad m] [Document ν m]

def decodeType (node : ν) : m ParamType := do
  return ParamType.ofToken (← Document.text node)

/-- Reads a record.  A value that is left out is none, but a record that is written as a list has
all its fields. -/
def decode (node : ν) : m Param := do
  let fields ← Document.fields fieldNames node
  let name ← fields.required "name".toList Document.text
  let type ← fields.optional "type".toList decodeType
  let isRequired ← fields.required "required".toList Document.flag
  let description ← fields.required "description".toList Document.text
  if fields.byPosition && (fields.node? "value".toList).isNone then Document.refuse ν
  let value ← fields.optional "value".toList Document.json
  return ⟨name, type, isRequired, description, value⟩

end Param

def ParamMap.toJson (params : ParamMap) : Json :=
  .object (params.map fun entry ↦ (entry.1, entry.2.toJson))

end EndpointDocs
