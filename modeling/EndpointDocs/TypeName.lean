import EndpointDocs.Text.Blank

/-!
# Names of types

The name of a type is a path of segments with backslashes between them.
-/

namespace EndpointDocs

namespace TypeName

def isSeparator (c : Char) : Bool := c == '\\'

/-- A name without the blanks around it and the separators in front. -/
def canonical (name : Text) : Text :=
  (Text.trim name).dropWhile isSeparator

def short (name : Text) : Text :=
  Text.afterLast '\\' (Text.dropEndWhile isSeparator name)

def namespaceOf (name : Text) : Text :=
  (Text.beforeLast? '\\' (name.dropWhile isSeparator)).getD []

end TypeName

end EndpointDocs
