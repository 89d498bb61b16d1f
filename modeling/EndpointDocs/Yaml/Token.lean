import EndpointDocs.Yaml.Head
import EndpointDocs.Yaml.TagName

/-!
# YAML tokens

The tokens of a YAML text.  Indentation and the keys of mappings are already made explicit: a token
opens and closes every collection and stands before every key and every value.
-/

namespace EndpointDocs

namespace Yaml

inductive ScalarStyle where
  | plain
  | singleQuoted
  | doubleQuoted
  | literal
  | folded
deriving Repr, DecidableEq

inductive Token where
  | versionDirective (major minor : Nat)
  | tagDirective (handle : Text) (lead : TagName)
  | documentStart
  | documentEnd
  | blockSequenceStart
  | blockMappingStart
  | blockEnd
  | flowSequenceStart
  | flowSequenceEnd
  | flowMappingStart
  | flowMappingEnd
  | blockEntry
  | flowEntry
  | key
  | value
  | alias (name : Text)
  | anchor (name : Text)
  | tag (handle : Text) (suffix : TagName)
  | scalar (style : ScalarStyle) (text : Text)
deriving Repr, DecidableEq

end Yaml

end EndpointDocs
