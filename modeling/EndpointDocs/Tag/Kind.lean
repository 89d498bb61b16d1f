import EndpointDocs.Text.Basic

/-!
# Kinds of parameter tags

A parameter is documented by a tag for the request body or by one for the route.
-/

namespace EndpointDocs

inductive TagKind where
  | body
  | url
deriving DecidableEq, Repr

namespace TagKind

def all : List TagKind := [body, url]

/-- The name of a tag, as it stands after the `@`. -/
def tagName : TagKind → Text
  | body => "bodyParam".toList
  | url => "urlParam".toList

def ofTagName? (name : Text) : Option TagKind :=
  all.find? fun kind ↦ kind.tagName == name

end TagKind

end EndpointDocs
