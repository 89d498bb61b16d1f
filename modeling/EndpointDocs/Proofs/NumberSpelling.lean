import EndpointDocs.Proofs.CorrectRounding
import EndpointDocs.Proofs.SignedDigits

/-!
# Spellings of numbers

The texts that are read as a number: a sign, digits with a point among them or beside them, and a
power of ten, or a word for a value that is not finite.  A text is read exactly if it is one of
these, and what is read is the double nearest to the number that is spelled.
-/

namespace EndpointDocs

namespace Decimal

/-- A letter and the power of ten after it, which has a digit. -/
structure PowerPart where
  letter : Char
  power : SignedDigits
  isLetter : letter = 'e' ∨ letter = 'E'
  hasDigit : power.digits ≠ []

def PowerPart.text (part : PowerPart) : Text :=
  part.letter :: part.power.text

/-- Digits, a point and more digits, which may be absent with the point, and a power of ten, which
may be absent.  There is a digit before the point or after it. -/
structure Numeral where
  sign : Sign
  whole : Text
  fraction? : Option Text
  power? : Option PowerPart
  whole_isDigit : ∀ c ∈ whole, c.isDigit = true
  fraction_isDigit : ∀ c ∈ fraction?.getD [], c.isDigit = true
  hasDigit : whole ≠ [] ∨ fraction?.getD [] ≠ []

namespace Numeral

def fraction (n : Numeral) : Text :=
  n.fraction?.getD []

def power (n : Numeral) : ℤ :=
  n.power?.elim 0 fun part ↦ part.power.value

def body (n : Numeral) : Text :=
  n.whole ++ (n.fraction?.elim [] ('.' :: ·) ++ n.power?.elim [] PowerPart.text)

def text (n : Numeral) : Text :=
  n.sign.text ++ n.body

/-- The number that is denoted, apart from its sign. -/
def magnitude (n : Numeral) : ℚ :=
  (Nat.ofDigitChars 10 n.whole 0 +
    Nat.ofDigitChars 10 n.fraction 0 / 10 ^ n.fraction.length) * 10 ^ n.power

end Numeral

/-- The words for infinity and for what is no number, in lower case. -/
def notFiniteWords : List Text :=
  ["inf".toList, "infinity".toList, "nan".toList]

/-- A spelling of a number: a numeral, or a sign and a word in any case. -/
inductive Spelling where
  | numeral (n : Numeral)
  | word (sign : Sign) (name : Text) (named : name.map Char.toLower ∈ notFiniteWords)

namespace Spelling

def text : Spelling → Text
  | numeral n => n.text
  | word sign name _ => sign.text ++ name

/-- The double that a spelling denotes, none where the number is not finite or too great. -/
def Denotes : Spelling → Option Binary64 → Prop
  | numeral n, x => Binary64.RoundsTo n.sign.isMinus n.magnitude x
  | word .., x => x = none

end Spelling

/-! ## Reading the parts of a numeral -/

theorem exponent?_text (power? : Option PowerPart) :
    exponent? (power?.elim [] PowerPart.text) =
      some (power?.elim 0 fun part ↦ part.power.value) := by
  cases power? with
  | none => rfl
  | some part =>
      obtain ⟨letter, power, hletter, hdigit⟩ := part
      have hall : power.digits.all Char.isDigit = true := List.all_eq_true.mpr power.isDigit
      change exponent? (letter :: power.text) = some power.value
      rw [exponent?, if_pos hletter, power.takeSign_text]
      simp only [hall, List.isEmpty_iff, hdigit, Bool.not_true, Bool.or_false, if_false]
      rw [SignedDigits.value, Sign.apply]
      split <;> rfl

/-- A text that is read as an exponent is a power part, or empty. -/
theorem exists_powerPart {rest : Text} {n : ℤ} (h : exponent? rest = some n) :
    ∃ power? : Option PowerPart, power?.elim [] PowerPart.text = rest := by
  cases rest with
  | nil => exact ⟨none, rfl⟩
  | cons letter rest =>
      rw [exponent?] at h
      split at h
      · next hletter =>
        obtain ⟨sign, hrest, -⟩ := exists_sign rest
        simp only at h
        generalize (takeSign rest).2 = digits at *
        split at h
        · cases h
        · next hrun =>
          rw [Bool.not_eq_true, isRun_iff] at hrun
          exact ⟨some ⟨letter, ⟨sign, digits, hrun.2⟩, hletter, hrun.1⟩, by rw [hrest]; rfl⟩
      · cases h

theorem endsMantissa_text (power? : Option PowerPart) {c : Char}
    (h : (power?.elim [] PowerPart.text).head? = some c) : c.isDigit = false ∧ c ≠ '.' := by
  cases power? with
  | none => cases h
  | some part =>
      obtain rfl : part.letter = c := Option.some.inj h
      rcases part.isLetter with hletter | hletter <;> rw [hletter] <;> decide

/-- The digits of a numeral are found again, with what stands behind them. -/
theorem splitDigits_body (n : Numeral) :
    splitDigits n.body = (n.whole, n.fraction, n.power?.elim [] PowerPart.text) := by
  obtain ⟨sign, whole, fraction?, power?, hwhole, hfraction, -⟩ := n
  have hrest : ∀ c, (power?.elim [] PowerPart.text).head? = some c → c.isDigit = false ∧ c ≠ '.' :=
    fun c ↦ endsMantissa_text power?
  simp only [Numeral.body, Numeral.fraction]
  generalize power?.elim [] PowerPart.text = rest at *
  have hends : Text.EndsDigits rest := fun c hc ↦ (hrest c hc).1
  cases fraction? with
  | some fraction =>
      have hfraction : ∀ c ∈ fraction, c.isDigit = true := hfraction
      have hpoint : Text.EndsDigits ('.' :: (fraction ++ rest)) := by
        rintro _ ⟨⟩
        rfl
      simp only [splitDigits, Option.elim_some, List.cons_append,
        Option.getD_some, Text.span_isDigit_append hwhole hpoint,
        Text.span_isDigit_append hfraction hends]
  | none =>
      simp only [splitDigits, Option.elim_none, List.nil_append,
        Text.span_isDigit_append hwhole hends]
      split
      · exact absurd rfl (hrest '.' rfl).2
      · rfl

/-- What is split off a text makes up the text again, with the point if there is one. -/
theorem eq_append_of_splitDigits {s whole fraction rest : Text}
    (h : splitDigits s = (whole, fraction, rest)) :
    (∀ c ∈ whole, c.isDigit = true) ∧ (∀ c ∈ fraction, c.isDigit = true) ∧
      ∃ fraction? : Option Text, fraction?.getD [] = fraction ∧
        s = whole ++ (fraction?.elim [] ('.' :: ·) ++ rest) := by
  have hspan : ∀ t : Text, t.span Char.isDigit =
      (t.takeWhile Char.isDigit, t.dropWhile Char.isDigit) :=
    List.span_eq_takeWhile_dropWhile Char.isDigit
  have hdigits : ∀ t : Text, ∀ c ∈ t.takeWhile Char.isDigit, c.isDigit = true :=
    fun _ _ hc ↦ List.mem_takeWhile_imp hc
  have hs := List.takeWhile_append_dropWhile (p := Char.isDigit) (l := s)
  simp only [splitDigits, hspan] at h
  split at h
  · next t hpoint =>
    obtain ⟨rfl, rfl, rfl⟩ := h
    refine ⟨hdigits s, hdigits t, some (t.takeWhile Char.isDigit), rfl, ?_⟩
    rw [Option.elim_some, List.cons_append, List.takeWhile_append_dropWhile, ← hpoint, hs]
  · obtain ⟨rfl, rfl, rfl⟩ := h
    exact ⟨hdigits s, by simp, none, rfl, hs.symm⟩

/-! ## Reading a spelling -/

theorem namesNotFinite_iff {s : Text} :
    namesNotFinite s = true ↔ s.map Char.toLower ∈ notFiniteWords :=
  List.contains_iff_mem

theorem head_of_mem_notFiniteWords :
    ∀ word ∈ notFiniteWords, word.head?.any Char.isAlpha = true := by
  decide

theorem not_named_of_head {s : Text} {c : Char} (hhead : s.head? = some c)
    (hc : c.isAlpha = false) : namesNotFinite s = false := by
  rw [← Bool.not_eq_true, namesNotFinite_iff]
  intro hmem
  have hletter := head_of_mem_notFiniteWords _ hmem
  rw [List.head?_map, hhead, Option.map_some, (toLower_eq_iff hc).mpr rfl, Option.any_some, hc]
    at hletter
  cases hletter

theorem not_isAlpha_of_isDigit {c : Char} (h : c.isDigit = true) : c.isAlpha = false := by
  obtain ⟨hlow, hhigh⟩ := isDigit_bounds h
  delta Char.isAlpha Char.isUpper Char.isLower
  simp only [Bool.or_eq_false_iff, Bool.and_eq_false_iff, decide_eq_false_iff_not, ge_iff_le,
    UInt32.le_iff_toNat_le]
  change ¬ (65 ≤ c.toNat ∧ c.toNat ≤ 90) ∧ (¬ 97 ≤ c.toNat ∨ ¬ c.toNat ≤ 122)
  omega

namespace Numeral

theorem exists_head_body (n : Numeral) :
    ∃ c, n.body.head? = some c ∧ c.isAlpha = false ∧ c ≠ '-' ∧ c ≠ '+' := by
  obtain ⟨sign, whole, fraction?, power?, hwhole, hfraction, hdigit⟩ := n
  cases whole with
  | cons c whole =>
      have hc := hwhole c List.mem_cons_self
      exact ⟨c, rfl, not_isAlpha_of_isDigit hc, SignedDigits.isDigit_ne_sign hc⟩
  | nil =>
      cases fraction? with
      | some fraction => exact ⟨'.', rfl, by decide⟩
      | none => simp at hdigit

/-- The digits before and after the point, read as one number, are the number without its point. -/
theorem digitsToNat_mul_eq_magnitude (n : Numeral) :
    (Text.digitsToNat (n.whole ++ n.fraction) : ℚ) * 10 ^ (n.power - n.fraction.length) =
      n.magnitude := by
  have hten : (10 : ℚ) ≠ 0 := by norm_num
  have hdigits : Text.digitsToNat (n.whole ++ n.fraction) =
      10 ^ n.fraction.length * Nat.ofDigitChars 10 n.whole 0 +
        Nat.ofDigitChars 10 n.fraction 0 := by
    change Nat.ofDigitChars 10 (n.whole ++ n.fraction) 0 = _
    rw [Nat.ofDigitChars_append, Nat.ofDigitChars_eq_ofDigitChars_zero]
  rw [hdigits, magnitude, zpow_sub₀ hten, zpow_natCast]
  push_cast
  field_simp

end Numeral

/-- Every spelling is read, as the double that it denotes. -/
theorem read?_text (t : Spelling) : ∃ r, read? t.text = some r ∧ t.Denotes r.finite? := by
  cases t with
  | word sign name named =>
      have hnamed := namesNotFinite_iff.mpr named
      have hhead : ∀ c, name.head? = some c → c ≠ '-' ∧ c ≠ '+' := by
        intro c hc
        constructor <;> rintro rfl <;> simp [not_named_of_head hc (by decide)] at hnamed
      refine ⟨.notFinite, ?_, rfl⟩
      rw [read?, Spelling.text, takeSign_text sign hhead]
      simp only [hnamed, if_true]
  | numeral n =>
      -- The body begins with a digit or the point, so it is no word and has no sign of its own.
      obtain ⟨c, hhead, hletter, hsign⟩ := n.exists_head_body
      have hheads : ∀ d, n.body.head? = some d → d ≠ '-' ∧ d ≠ '+' := by
        intro d hd
        obtain rfl : c = d := Option.some.inj (hhead.symm.trans hd)
        exact hsign
      have hdigit : ¬ (n.whole.isEmpty && n.fraction.isEmpty) = true := by
        simpa [Numeral.fraction, imp_iff_not_or] using n.hasDigit
      have hvalue := Binary64.roundsTo_ofDecimal? n.sign.isMinus
        (Text.digitsToNat (n.whole ++ n.fraction)) (n.power - n.fraction.length)
      rw [n.digitsToNat_mul_eq_magnitude] at hvalue
      rw [read?, Spelling.text, Numeral.text, takeSign_text n.sign hheads]
      simp only [not_named_of_head hhead hletter, splitDigits_body, hdigit, exponent?_text,
        Option.map_some, Bool.false_eq_true, if_false]
      rw [Numeral.power] at hvalue
      generalize Binary64.ofDecimal? _ _ _ = x at *
      cases x with
      | none => exact ⟨.notFinite, rfl, hvalue⟩
      | some x => exact ⟨.finite x, rfl, hvalue⟩

/-- What is read is a spelling. -/
theorem exists_spelling_of_read? {s : Text} {r : Reading} (h : read? s = some r) :
    ∃ t : Spelling, t.text = s := by
  obtain ⟨sign, hs, -⟩ := exists_sign s
  unfold read? at h
  simp only at h
  generalize (takeSign s).2 = body at *
  split at h
  · next hnamed => exact ⟨.word sign body (namesNotFinite_iff.mp hnamed), hs.symm⟩
  · obtain ⟨whole, fraction, rest, hparts⟩ : ∃ whole fraction rest,
        splitDigits body = (whole, fraction, rest) := ⟨_, _, _, rfl⟩
    obtain ⟨hwhole, hfraction, fraction?, rfl, hbody⟩ := eq_append_of_splitDigits hparts
    simp only [hparts] at h
    split at h
    · cases h
    · next hdigit =>
      obtain ⟨exponent, hexponent, -⟩ := Option.map_eq_some_iff.mp h
      obtain ⟨power?, hpower⟩ := exists_powerPart hexponent
      refine ⟨.numeral ⟨sign, _, fraction?, power?, hwhole, hfraction, ?_⟩, ?_⟩
      · simpa [imp_iff_not_or] using hdigit
      · rw [Spelling.text, Numeral.text, Numeral.body, hpower, ← hbody, hs]

end Decimal

end EndpointDocs
