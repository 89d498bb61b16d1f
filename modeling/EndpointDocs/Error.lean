import EndpointDocs.Text.Basic

/-!
# Errors

The causes for which a request fails, and their texts.  The faults of a YAML or JSON text have no
text of their own.
-/

namespace EndpointDocs

inductive FileFault where
  | missing
  | notText
deriving DecidableEq, Repr

/-- Why a request fails. -/
inductive DocError where
  /-- The type of a handler parameter is not known; such a parameter is passed over. -/
  | unknownType (parameter typeName : Text)
  /-- Neither a request type nor the handler has a documentation block. -/
  | noSource (endpoint : Text)
  /-- A request template does not name the entity. -/
  | templateWithoutEntity
  | file (fault : FileFault)
  | yaml
  | json
  | metadata
  /-- No tag kind has that name. -/
  | unknownKind (name : Text)
deriving DecidableEq, Repr

def FileFault.message : FileFault → Text
  | missing => "No such file or directory (os error 2)".toList
  | notText => "stream did not contain valid UTF-8".toList

def DocError.message : DocError → Text
  | unknownType parameter typeName =>
    "Cannot resolve type '".toList ++ typeName ++ "' of parameter '$".toList ++ parameter ++
      "'".toList
  | noSource endpoint => "No documentation source found for endpoint ".toList ++ endpoint
  | templateWithoutEntity =>
    ("Configuration error: every request template must contain an ".toList ++
      "\x7bentity\x7d placeholder".toList)
  | file fault => "I/O error: ".toList ++ fault.message
  | yaml => "YAML parsing error".toList
  | json => "JSON parsing error".toList
  | metadata => "Metadata error".toList
  | unknownKind name => "Unknown tag kind: ".toList ++ name

end EndpointDocs
