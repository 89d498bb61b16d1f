import EndpointDocs.Document
import EndpointDocs.TypeName

/-!
# Endpoints

The unit that is documented: a route and the controller method that handles it.
-/

namespace EndpointDocs

structure HandlerParam where
  name : Text
  typeName : Option Text
deriving DecidableEq, Repr

/-- A route and its handler. -/
structure Endpoint where
  route : Text
  controller : Text
  method : Text
  parameters : List HandlerParam
  docComment : Option Text
deriving DecidableEq, Repr

namespace HandlerParam

variable {ν : Type} {m : Type → Type} [Monad m] [Document ν m]

def decode (node : ν) : m HandlerParam := do
  let fields ← Document.fields ["name".toList, "type".toList] node
  return {
    name := ← fields.required "name".toList Document.text
    typeName := ← fields.optional "type".toList Document.text }

end HandlerParam

namespace Endpoint

/-- What tells handlers apart: the controller and the method. -/
def key (endpoint : Endpoint) : Text :=
  TypeName.canonical endpoint.controller ++ '@' :: endpoint.method

def label (endpoint : Endpoint) : Text :=
  endpoint.route ++ " (".toList ++ endpoint.key ++ ")".toList

def fieldNames : List Text :=
  ["route".toList, "controller".toList, "method".toList, "parameters".toList,
    "doc_comment".toList]

variable {ν : Type} {m : Type → Type} [Monad m] [Document ν m]

def decodeParams (node : ν) : m (List HandlerParam) := do
  (← Document.items node).mapM HandlerParam.decode

def decode (node : ν) : m Endpoint := do
  let fields ← Document.fields fieldNames node
  return {
    route := ← fields.required "route".toList Document.text
    controller := ← fields.required "controller".toList Document.text
    method := ← fields.required "method".toList Document.text
    parameters := ← fields.withDefault "parameters".toList [] decodeParams
    docComment := ← fields.optional "doc_comment".toList Document.text }

end Endpoint

end EndpointDocs
