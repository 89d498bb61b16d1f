/-!
# Text

Text is a list of Unicode scalar values.  This module cuts text around a piece, replaces a piece,
and splits text into lines; blanks, letters and case are in the modules beside it.
-/

namespace EndpointDocs

/-- Text as the list of its characters. -/
abbrev Text := List Char

namespace Text

/-- The parts before and after the first place where `piece` stands in the text. -/
def cutAround? (piece : Text) : Text → Option (Text × Text)
  | [] => if piece.isEmpty then some ([], []) else none
  | c :: s =>
    match piece.isPrefixOf? (c :: s) with
    | some after => some ([], after)
    | none => (cutAround? piece s).map fun (before, after) ↦ (c :: before, after)

/-- A piece at the front of a text and what follows it make up the text. -/
theorem append_of_isPrefixOf? {piece s after : Text} (h : piece.isPrefixOf? s = some after) :
    piece ++ after = s := by
  induction piece generalizing s with
  | nil =>
    change some s = some after at h
    simpa [eq_comm] using h
  | cons c piece ih =>
    cases s with
    | nil =>
      change none = some after at h
      simp at h
    | cons d s =>
      change (if c == d then piece.isPrefixOf? s else none) = some after at h
      split at h
      · next hcd =>
        rw [List.cons_append, ih h, eq_of_beq hcd]
      · simp at h

/-- The text after a piece is shorter than the text that holds the piece. -/
theorem length_lt_of_cutAround? {piece s before after : Text} (hpiece : piece ≠ [])
    (h : cutAround? piece s = some (before, after)) : after.length < s.length := by
  induction s generalizing before with
  | nil => simp [cutAround?, hpiece] at h
  | cons c s ih =>
    rw [cutAround?] at h
    split at h
    · next rest hrest =>
      obtain ⟨-, rfl⟩ : [] = before ∧ rest = after := by simpa using h
      rw [← append_of_isPrefixOf? hrest, List.length_append]
      have := List.length_pos_iff.mpr hpiece
      omega
    · obtain ⟨⟨front, back⟩, hcut, heq⟩ := Option.map_eq_some_iff.mp h
      obtain ⟨-, rfl⟩ : c :: front = before ∧ back = after := by simpa using heq
      exact Nat.lt_succ_of_lt (ih hcut)

def mentions (piece s : Text) : Bool :=
  (cutAround? piece s).isSome

/-- Reads the text from the left and writes `new` for every `piece` met; `skip` characters of a
piece already replaced are still to be passed over. -/
def replaceFrom (piece new : Text) : Nat → Text → Text
  | _, [] => []
  | skip + 1, _ :: s => replaceFrom piece new skip s
  | 0, c :: s =>
    if piece.isPrefixOf (c :: s) then new ++ replaceFrom piece new (piece.length - 1) s
    else c :: replaceFrom piece new 0 s

/-- The text with `new` in the place of every `piece`, taken from the left without overlap.
The piece is not empty. -/
def replace (piece new s : Text) : Text :=
  replaceFrom piece new 0 s

/-- The lines of a text: a line ends at a line feed, and one carriage return before that line feed
belongs to the ending.  There is no empty line after a final line feed. -/
def lines : Text → List Text
  | [] => []
  | '\n' :: s => [] :: lines s
  | '\r' :: '\n' :: s => [] :: lines s
  | c :: s =>
    match lines s with
    | [] => [[c]]
    | line :: others => (c :: line) :: others

/-- The part after the last `mark`, or the whole text when it has none. -/
def afterLast (mark : Char) (s : Text) : Text :=
  (s.reverse.takeWhile (· != mark)).reverse

def beforeLast? (mark : Char) (s : Text) : Option Text :=
  match s.reverse.dropWhile (· != mark) with
  | [] => none
  | _ :: before => some before.reverse

def dropEndWhile (p : Char → Bool) (s : Text) : Text :=
  (s.reverse.dropWhile p).reverse

def byteCount (s : Text) : Nat :=
  s.foldl (fun n c ↦ n + c.utf8Size) 0

def digitsToNat (s : Text) : Nat :=
  s.foldl (fun n c ↦ 10 * n + (c.toNat - '0'.toNat)) 0

/-- The value of a digit of a base up to sixteen, in either case. -/
def digitValue? (base : Nat) (c : Char) : Option Nat :=
  let value :=
    if c.isDigit then c.toNat - '0'.toNat
    else if 'a' ≤ c ∧ c ≤ 'f' then c.toNat - 'a'.toNat + 10
    else if 'A' ≤ c ∧ c ≤ 'F' then c.toNat - 'A'.toNat + 10
    else base
  if value < base then some value else none

/-- The number that digits of a base up to sixteen denote; no digits denote zero. -/
def ofDigits? (base : Nat) (digits : Text) : Option Nat :=
  digits.foldlM (fun n c ↦ (digitValue? base c).map (base * n + ·)) 0

def ofNat (n : Nat) : Text :=
  Nat.toDigits 10 n

/-- The decimal digits of an integer after its sign, which is written only when it is negative. -/
def ofInt : Int → Text
  | .ofNat n => ofNat n
  | .negSucc n => '-' :: ofNat (n + 1)

end Text

end EndpointDocs
