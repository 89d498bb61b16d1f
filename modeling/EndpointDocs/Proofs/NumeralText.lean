import EndpointDocs.Json.Node
import Mathlib.Data.Nat.Digits.Lemmas

/-!
# The text of integers

The digits of an integer are read as one numeral where what follows does not go on with it, and the
value of that numeral is the integer, if it is one of 64 bits with or without a sign.
-/

namespace EndpointDocs

namespace Text

theorem isDigit_of_mem_ofNat {n : ℕ} {c : Char} (h : c ∈ ofNat n) : c.isDigit = true :=
  Nat.isDigit_of_mem_toDigits (by decide) le_rfl h

/-- A text does not go on with digits. -/
def EndsDigits (rest : Text) : Prop :=
  ∀ c, rest.head? = some c → c.isDigit = false

theorem EndsDigits.takeWhile_eq_nil {rest : Text} (h : EndsDigits rest) :
    rest.takeWhile Char.isDigit = [] := by
  cases rest with
  | nil => rfl
  | cons c rest => exact List.takeWhile_cons_of_neg (by simp [h c rfl])

/-- A run of digits is taken whole, and nothing after it. -/
theorem span_isDigit_append {digits rest : Text} (hdigits : ∀ c ∈ digits, c.isDigit = true)
    (hrest : EndsDigits rest) : (digits ++ rest).span Char.isDigit = (digits, rest) := by
  have hall := List.takeWhile_append_dropWhile (p := Char.isDigit) (l := rest)
  rw [hrest.takeWhile_eq_nil, List.nil_append] at hall
  rw [List.span_eq_takeWhile_dropWhile, List.takeWhile_append_of_pos hdigits,
    List.dropWhile_append_of_pos hdigits, hrest.takeWhile_eq_nil, hall, List.append_nil]

theorem ofNat_ne_nil (n : ℕ) : ofNat n ≠ [] :=
  Nat.toDigits_ne_nil

theorem ofNat_eq_cons (n : ℕ) : ∃ c s, ofNat n = c :: s ∧ c.isDigit = true := by
  obtain ⟨c, s, hdigits⟩ := List.exists_cons_of_ne_nil (ofNat_ne_nil n)
  exact ⟨c, s, hdigits, isDigit_of_mem_ofNat (hdigits ▸ List.mem_cons_self)⟩

theorem ofNat_of_ten_le {n : ℕ} (h : 10 ≤ n) :
    ofNat n = ofNat (n / 10) ++ [Nat.digitChar (n % 10)] := by
  have hdigits := Nat.toDigits_append_toDigits (b := 10) (n := n / 10) (d := n % 10) (by decide)
    (by omega) (by omega)
  rw [Nat.div_add_mod, Nat.toDigits_of_lt_base (n := n % 10) (by omega)] at hdigits
  exact hdigits.symm

/-- The digits of a number begin with a zero only if the number is zero. -/
theorem head_ofNat {n : ℕ} (h : 0 < n) : (ofNat n).head? ≠ some '0' := by
  induction n using Nat.strongRecOn with
  | ind n ih =>
      by_cases hsmall : n < 10
      · have hall : ∀ d < 10, 0 < d → (ofNat d).head? ≠ some '0' := by decide
        exact hall n hsmall h
      · rw [ofNat_of_ten_le (by omega), List.head?_append_of_ne_nil _ (ofNat_ne_nil _)]
        exact ih (n / 10) (by omega) (by omega)

theorem digitsToNat_ofNat (n : ℕ) : digitsToNat (ofNat n) = n :=
  Nat.ofDigitChars_toDigits (by decide) le_rfl

end Text

namespace Json

/-- A text does not go on with a number in front of it. -/
def EndsNumber (rest : Text) : Prop :=
  ∀ c, rest.head? = some c → c.isDigit = false ∧ c ≠ '.' ∧ c ≠ 'e' ∧ c ≠ 'E'

/-- The numeral that an integer is written as. -/
def Numeral.ofInt (n : Int) : Numeral :=
  ⟨decide (n < 0), Text.ofNat n.natAbs, none, none⟩

theorem Numeral.ofInt_negSucc (n : ℕ) :
    ofInt (.negSucc n) = ⟨true, Text.ofNat (n + 1), none, none⟩ := by
  simp [ofInt]

namespace Node

variable {rest : Text}

theorem someDigits_append {digits : Text} (hne : digits ≠ [])
    (hdigits : ∀ c ∈ digits, c.isDigit = true) (hrest : EndsNumber rest) :
    someDigits (digits ++ rest) = some (digits, rest) := by
  rw [someDigits, Text.span_isDigit_append hdigits fun c hc ↦ (hrest c hc).1]
  cases digits with
  | nil => exact absurd rfl hne
  | cons c digits => rfl

theorem wholePart_append (n : ℕ) (hrest : EndsNumber rest) :
    wholePart (Text.ofNat n ++ rest) = some (Text.ofNat n, rest) := by
  have hread := someDigits_append (Text.ofNat_ne_nil n)
    (fun c hc ↦ Text.isDigit_of_mem_ofNat hc) hrest
  unfold wholePart
  split
  · next c after heq =>
    obtain rfl : n = 0 := by
      by_contra hpos
      have hhead : (Text.ofNat n ++ rest).head? = (Text.ofNat n).head? :=
        List.head?_append_of_ne_nil _ (Text.ofNat_ne_nil n)
      apply Text.head_ofNat (Nat.pos_of_ne_zero hpos)
      rw [← hhead, heq]
      rfl
    obtain rfl : rest = c :: after := by simpa [Text.ofNat] using heq
    rw [if_neg (by simp [(hrest c rfl).1])]
    rfl
  · exact hread

theorem fractionPart_of_endsNumber (hrest : EndsNumber rest) :
    fractionPart rest = some (none, rest) := by
  unfold fractionPart
  split
  · exact absurd rfl (hrest '.' rfl).2.1
  · rfl

theorem exponentPart_of_endsNumber (hrest : EndsNumber rest) :
    exponentPart rest = some (none, rest) := by
  cases rest with
  | nil => rfl
  | cons c rest =>
      obtain ⟨-, -, hlower, hupper⟩ := hrest c rfl
      unfold exponentPart
      exact if_neg (by simp [hlower, hupper])

/-- The digits of a number are read as one numeral, up to a text that does not go on with it. -/
theorem readNumber_append (negative : Bool) (n : ℕ) (hrest : EndsNumber rest) :
    readNumber negative (Text.ofNat n ++ rest) =
      some (.number ⟨negative, Text.ofNat n, none, none⟩, rest) := by
  simp [readNumber, wholePart_append n hrest, fractionPart_of_endsNumber hrest,
    exponentPart_of_endsNumber hrest]

end Node

/-! ## The value of a numeral -/

namespace Numeral

theorem le_foldl_digits (n : ℕ) (digits : Text) :
    n ≤ digits.foldl (fun n c ↦ 10 * n + (c.toNat - '0'.toNat)) n := by
  induction digits generalizing n with
  | nil => exact le_rfl
  | cons c digits ih =>
      have hnext := ih (10 * n + (c.toNat - '0'.toNat))
      rw [List.foldl_cons]
      omega

theorem absorb_eq {n : ℕ} {digits : Text}
    (h : digits.foldl (fun n c ↦ 10 * n + (c.toNat - '0'.toNat)) n ≤ greatestWord) :
    absorb n digits = (digits.foldl (fun n c ↦ 10 * n + (c.toNat - '0'.toNat)) n, 0) := by
  induction digits generalizing n with
  | nil => rfl
  | cons c digits ih =>
      rw [List.foldl_cons] at h ⊢
      rw [absorb, if_pos ((le_foldl_digits _ digits).trans h), ih h]

theorem absorb_ofNat {n : ℕ} (h : n ≤ greatestWord) : absorb 0 (Text.ofNat n) = (n, 0) := by
  have hread := Text.digitsToNat_ofNat n
  rw [Text.digitsToNat] at hread
  rw [absorb_eq (by rwa [hread]), hread]

/-- The numeral of an integer has its value, if that fits 64 bits with or without a sign. -/
theorem value?_ofInt {n : Int} (hlow : -0x8000000000000000 ≤ n) (hhigh : n ≤ 0xFFFFFFFFFFFFFFFF) :
    (ofInt n).value? = some (.int n) := by
  have hword : n.natAbs ≤ greatestWord := by
    rw [greatestWord]
    omega
  simp only [value?, ofInt, absorb_ofNat hword]
  by_cases hnegative : n < 0
  · have hsmall : ¬ (n.natAbs = 0 ∨ 0x8000000000000000 < n.natAbs) := by omega
    simp only [hnegative, decide_true, Bool.not_true, Bool.false_eq_true, if_false, hsmall,
      lt_irrefl, Option.some.injEq, int.injEq]
    omega
  · simp only [hnegative, decide_false, Bool.not_false, if_true, lt_irrefl, if_false,
      Option.some.injEq, int.injEq]
    omega

end Numeral

end Json

end EndpointDocs
