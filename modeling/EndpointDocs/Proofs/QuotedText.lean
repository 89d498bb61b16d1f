import EndpointDocs.Json.Node

/-!
# Quoted texts

Each character of a quoted text is written so that one part of a string is read from it, the
character itself.  So a quoted text is read up to its closing quote, and it is the text that was
quoted.
-/

namespace EndpointDocs

namespace Json

namespace Node

theorem stringParts_short {letter c : Char} (s : Text) (hletter : letter ≠ 'u')
    (h : shortEscape? letter = some c) :
    stringParts ('\\' :: letter :: s) =
      (stringParts s).map fun (parts, rest) ↦ (.char c :: parts, rest) := by
  rw [stringParts]
  · rw [h]
    cases stringParts s <;> rfl
  · intro _ _ _ _ _ heq
    exact absurd heq hletter

theorem stringParts_control {n : Nat} (s : Text) (h : n < 32) :
    stringParts ("\\u00".toList ++ [hexDigit (n / 16), hexDigit (n % 16)] ++ s) =
      (stringParts s).map fun (parts, rest) ↦ (.char (Char.ofNat n) :: parts, rest) := by
  have hdigits : ∀ k < 32, Text.ofDigits? 16 ['0', '0', hexDigit (k / 16), hexDigit (k % 16)] =
      some k := by decide +kernel
  have hpart : partOf n = .char (Char.ofNat n) := by
    unfold partOf
    rw [if_neg (by omega), if_neg (by omega)]
  change stringParts ('\\' :: 'u' :: '0' :: '0' :: hexDigit (n / 16) :: hexDigit (n % 16) :: s) = _
  rw [stringParts, hdigits n h]
  simp only [Option.bind_eq_bind, Option.bind_some, hpart]
  cases stringParts s <;> rfl

theorem stringParts_plain {c : Char} (s : Text) (hquote : c ≠ '"') (hslash : c ≠ '\\')
    (h : 32 ≤ c.toNat) :
    stringParts (c :: s) = (stringParts s).map fun (parts, rest) ↦ (.char c :: parts, rest) := by
  rw [stringParts]
  · rw [if_neg (by omega)]
    cases stringParts s <;> rfl
  · exact hquote
  · intro _ _ _ _ _ heq
    exact absurd heq hslash
  · intro _ _ heq
    exact absurd heq hslash

/-- A character inside a quoted text is read back as one part, escaped or not. -/
theorem stringParts_escapeChar (c : Char) (s : Text) :
    stringParts (escapeChar c ++ s) =
      (stringParts s).map fun (parts, rest) ↦ (.char c :: parts, rest) := by
  unfold escapeChar
  split
  · exact stringParts_short s (by decide) rfl
  · exact stringParts_short s (by decide) rfl
  · exact stringParts_short s (by decide) rfl
  · exact stringParts_short s (by decide) rfl
  · exact stringParts_short s (by decide) rfl
  · next hquote hslash _ _ _ =>
    have hself : Char.ofNat c.toNat = c := Char.ofNat_toNat c
    simp only
    split
    · next heq =>
      rw [← hself, heq]
      exact stringParts_short s (by decide) rfl
    split
    · next heq =>
      rw [← hself, heq]
      exact stringParts_short s (by decide) rfl
    split
    · next hsmall => rw [stringParts_control s hsmall, hself]
    · next hlarge => exact stringParts_plain s hquote hslash (by omega)

/-- By induction on the text, whose parts are read up to the closing quote. -/
theorem stringParts_flatMap (s rest : Text) :
    stringParts (s.flatMap escapeChar ++ '"' :: rest) = some (s.map .char, rest) := by
  induction s with
  | nil => rfl
  | cons c s ih =>
      rw [List.flatMap_cons, List.append_assoc, stringParts_escapeChar, ih]
      rfl

theorem joinParts_map_char (s : Text) : joinParts (s.map .char) = some s := by
  induction s with
  | nil => rfl
  | cons c s ih => rw [List.map_cons, joinParts, ih, Option.map_some]

theorem readString_flatMap (s rest : Text) :
    readString (s.flatMap escapeChar ++ '"' :: rest) = some (some s, rest) := by
  rw [readString, stringParts_flatMap]
  exact congrArg (fun t ↦ some (t, rest)) (joinParts_map_char s)

end Node

end Json

end EndpointDocs
