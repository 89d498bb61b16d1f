import EndpointDocs.TypeName
import EndpointDocs.WordCase

/-!
# Names of request types

The request type of an action on an entity has a name that is made from templates.
-/

namespace EndpointDocs

/-- A naming of request types: the namespace that holds them and the templates of their names.  The
namespace may hold the placeholder `{module}`, and the templates may hold `{namespace}`, `{entity}`
and `{action}`. -/
structure RequestNaming where
  namespaceTemplate : Text
  templates : List Text
deriving DecidableEq, Repr

namespace RequestNaming

def placeholder (name : String) : Text :=
  '\x7b' :: (name.toList ++ ['\x7d'])

/-- The namespace of an entity without the segment for models at its end. -/
def moduleOf (entity : Text) : Text :=
  let whole := TypeName.namespaceOf entity
  match "\\Models".toList.isSuffixOf? whole with
  | some module => module
  | none => ("Models".toList.isSuffixOf? whole).getD whole

def namespaceFor (naming : RequestNaming) (entity : Text) : Text :=
  Text.replace (placeholder "module") (moduleOf entity) naming.namespaceTemplate

/-- A template with its placeholders replaced one after the other. -/
def expand (requestNamespace entity action template : Text) : Text :=
  Text.replace (placeholder "action") action
    (Text.replace (placeholder "entity") entity
      (Text.replace (placeholder "namespace") requestNamespace template))

/-- The names a request type may have, in the order in which they are tried. -/
def possibleRequests (naming : RequestNaming) (requestNamespace entity action : Text) :
    List Text :=
  naming.templates.map
    (expand requestNamespace (TypeName.short entity) (WordCase.upperCamel action))

end RequestNaming

end EndpointDocs
