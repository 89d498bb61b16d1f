import EndpointDocs.Text.Case
import EndpointDocs.Text.Letter

/-!
# Snake case and camel case

The words of a name, written in lower case with underscores between them or each with a capital
letter.  A new word starts after a hyphen, an underscore or a space, and at an upper-case letter
that follows a lower-case one; other characters are dropped.
-/

namespace EndpointDocs

namespace WordCase

def isSeparator (c : Char) : Bool :=
  c == '-' || c == '_' || c == ' '

/-- What has been written of a name in snake case, and whether a lower-case letter came last. -/
structure Draft where
  written : Text
  afterLower : Bool

/-- The draft with an underscore at its end, unless it is empty or ends with one. -/
def Draft.separate (draft : Draft) : Text :=
  if draft.written.isEmpty || draft.written.getLast? == some '_' then draft.written
  else draft.written ++ ['_']

def Draft.add (draft : Draft) (c : Char) : Draft :=
  if isUppercase c then
    let edge := if draft.afterLower then ['_'] else []
    ⟨draft.written ++ edge ++ lowerChar c, false⟩
  else if isAlphanumeric c then ⟨draft.written ++ [c], isLowercase c⟩
  else if isSeparator c then ⟨draft.separate, false⟩
  else draft

def draft (name : Text) : Draft :=
  name.foldl Draft.add ⟨[], false⟩

/-- Takes a further character, but no underscore at the start or after another one. -/
def addSingle (written : Text) (c : Char) : Text :=
  if c == '_' && (written.isEmpty || written.getLast? == some '_') then written
  else written ++ [c]

def snake (name : Text) : Text :=
  let single := (draft name).written.foldl addSingle []
  Text.dropEndWhile (· == '_') (single.dropWhile (· == '_'))

def capitalize (word : Text) : Text :=
  match word with
  | [] => []
  | c :: s => upperChar c ++ s

def upperCamel (name : Text) : Text :=
  ((snake name).splitOn '_').flatMap capitalize

end WordCase

end EndpointDocs
