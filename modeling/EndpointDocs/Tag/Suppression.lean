import EndpointDocs.Text.Blank

/-!
# Suppressed examples

A marker anywhere in a tag keeps the tag from getting an example.  Before the tag is read, the
marker is taken out, together with one blank before it and one character after it.
-/

namespace EndpointDocs

/-- The marker that keeps a tag from getting an example. -/
def noExample : Text := "No-example".toList

def suppressesExample (content : Text) : Bool :=
  Text.mentions noExample content

namespace Text

/-- The text without the last character, if that is a blank. -/
def dropLastBlank (s : Text) : Text :=
  match s.getLast? with
  | some c => if isBlank c then s.dropLast else s
  | none => s

end Text

def stripNoExample (content : Text) : Text :=
  match _hcut : Text.cutAround? noExample content with
  | none => content
  | some (before, after) => Text.dropLastBlank before ++ stripNoExample (after.drop 1)
termination_by content.length
decreasing_by
  have hshorter := Text.length_lt_of_cutAround? (by decide) _hcut
  simp only [List.length_drop]
  omega

end EndpointDocs
