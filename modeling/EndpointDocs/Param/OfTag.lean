import EndpointDocs.DocBlock
import EndpointDocs.Log
import EndpointDocs.Param
import EndpointDocs.ParamType.Sample
import EndpointDocs.Tag.Fields
import EndpointDocs.Tag.InlineExample
import EndpointDocs.Tag.Suppression

/-!
# Parameters from tags

The record of a tag, and the parameters of a block.  A record's value is its inline example, or a
sample from the stream, or nothing where the tag suppresses it; only a sample moves the stream on.
-/

namespace EndpointDocs

/-- The words in the description of a url parameter that suggest a number. -/
def numberHints : List String := ["number", "count", "page"]

def urlSampleType (description : Text) : ParamType :=
  if numberHints.any fun hint ↦ Text.mentions hint.toList description then .integer else .string

namespace Param

/-- The value of a tag: none when suppressed, else the inline example, else a sample. -/
def chooseValue (suppressed : Bool) (inlined : Option Json) (t : ParamType) (s : Random.Stream) :
    Option Json × Random.Stream :=
  if suppressed then (none, s)
  else match inlined with
    | some value => (some value, s)
    | none =>
      let (value, s) := t.sample s
      (some value, s)

def ofFields (kind : TagKind) (suppressed : Bool) (fields : TagFields) (s : Random.Stream) :
    Param × Random.Stream :=
  match kind with
  | .body =>
    let t := ParamType.ofToken (fields.typeToken.getD [])
    let (description, inlined) := describe fields.description t
    let (value, s) := chooseValue suppressed inlined t s
    (⟨fields.name, some t, fields.isRequired, description, value⟩, s)
  | .url =>
    let (description, inlined) := describe fields.description .string
    let (value, s) := chooseValue suppressed inlined (urlSampleType description) s
    (⟨fields.name, none, fields.isRequired, description, value⟩, s)

/-- The record of a tag; none when nothing but blanks and markers is written. -/
def ofTag? (kind : TagKind) (content : Text) (s : Random.Stream) : Option Param × Random.Stream :=
  match TagFields.ofContent? kind (stripNoExample content) with
  | none => (none, s)
  | some fields =>
    let (p, s) := ofFields kind (suppressesExample content) fields s
    (some p, s)

end Param

/-- The parameters of a block, the stream after them, and what there is to say about them. -/
structure BlockParams where
  params : ParamMap
  stream : Random.Stream
  log : Log

namespace BlockParams

/-- Takes a further tag.  A later record takes the place of an earlier one of the same name. -/
def addTag (kind : TagKind) (read : BlockParams) (tag : Tag) : BlockParams :=
  match Param.ofTag? kind tag.content read.stream with
  | (none, s) =>
    { read with
      stream := s
      log := read.log ++ Log.trace ("ignoring empty @".toList ++ kind.tagName ++ " tag".toList) }
  | (some p, s) => { read with params := read.params.put p.name p, stream := s }

end BlockParams

def DocBlock.readParams (block : DocBlock) (kind : TagKind) (s : Random.Stream) : BlockParams :=
  (block.tagsOf kind).foldl (BlockParams.addTag kind) ⟨[], s, []⟩

end EndpointDocs
