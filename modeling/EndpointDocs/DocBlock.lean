import EndpointDocs.Text.Blank
import EndpointDocs.Tag.Kind

/-!
# Documentation blocks

The text of a documentation comment, split into a summary and tags.  A line that starts with `@` and
a name starts a tag; the lines after it belong to that tag.
-/

namespace EndpointDocs

/-- A tag: its name without the `@`, and its content with blanks trimmed. -/
structure Tag where
  name : Text
  content : Text
deriving DecidableEq, Repr

/-- A documentation block: the text before the first tag, and the tags in order. -/
structure DocBlock where
  summary : Text
  tags : List Tag
deriving DecidableEq, Repr

namespace DocBlock

/-- The text of a comment between its delimiters. -/
def commentBody (comment : Text) : Text :=
  let body := Text.trim comment
  let body := ("/**".toList.isPrefixOf? body).getD body
  ("*/".toList.isSuffixOf? body).getD body

/-- A line without the star in front of it and the blanks around it. -/
def stripGutter (line : Text) : Text :=
  match Text.trim line with
  | '*' :: rest => Text.trim rest
  | line => line

def commentLines (comment : Text) : List Text :=
  (Text.lines (commentBody comment)).map stripGutter

def tagStart? (line : Text) : Option Tag :=
  match line with
  | '@' :: rest =>
    let (name, content) := Text.splitBlank rest
    if name.isEmpty then none else some ⟨name, Text.trim content⟩
  | _ => none

def continueTag (tag : Tag) (line : Text) : Tag :=
  if line.isEmpty then tag
  else if tag.content.isEmpty then { tag with content := line }
  else { tag with content := tag.content ++ ' ' :: line }

/-- What has been read of a comment: the lines of the summary and the tags, the latest first. -/
structure Draft where
  summary : List Text
  tags : List Tag
deriving DecidableEq, Repr

def Draft.addLine (draft : Draft) (line : Text) : Draft :=
  match tagStart? line, draft.tags with
  | some tag, tags => { draft with tags := tag :: tags }
  | none, tag :: tags => { draft with tags := continueTag tag line :: tags }
  | none, [] => { draft with summary := line :: draft.summary }

def Draft.finish (draft : Draft) : DocBlock :=
  ⟨Text.trim (['\n'].intercalate draft.summary.reverse), draft.tags.reverse⟩

def ofComment (comment : Text) : DocBlock :=
  ((commentLines comment).foldl Draft.addLine ⟨[], []⟩).finish

def tagsOf (block : DocBlock) (kind : TagKind) : List Tag :=
  block.tags.filter fun tag ↦ tag.name == kind.tagName

end DocBlock

end EndpointDocs
