import EndpointDocs.Text.Basic

/-!
# Tag names

The name of a tag is a run of bytes: a percent sign and two digits write any byte, so a name need
not be a text.  A zero byte ends a name.
-/

namespace EndpointDocs

namespace Yaml

abbrev TagName := List UInt8

namespace TagName

def ofText (s : Text) : TagName :=
  s.map Char.toUInt8

/-- The part of a name before its first zero byte. -/
def untilZero (name : TagName) : TagName :=
  name.takeWhile (· != 0)

def core (kind : String) : TagName :=
  ofText ("tag:yaml.org,2002:".toList ++ kind.toList)

def hasMark (name : TagName) : Bool :=
  name.head? == some '!'.toUInt8

/-- Whether a name is that of one of the document's own tags: the mark and then a text. -/
def isLocal (name : TagName) : Bool :=
  name.hasMark && (name.drop 1).toByteArray.validateUTF8

end TagName

end Yaml

end EndpointDocs
