import EndpointDocs.Proofs.LetterCase
import EndpointDocs.Proofs.NumeralText
import EndpointDocs.Proofs.ValueFit

/-!
# Signed digits

A sign, which may be absent, and a run of digits after it.  The digits after a sign are read back as
they were written, and a text of this kind spells an integer if it has a digit and fits 64 bits.
-/

namespace EndpointDocs

inductive Sign where
  | absent
  | plus
  | minus
deriving DecidableEq, Repr

namespace Sign

def text : Sign → Text
  | absent => []
  | plus => ['+']
  | minus => ['-']

def isMinus : Sign → Bool
  | minus => true
  | _ => false

/-- The integer that a sign and a magnitude stand for. -/
def apply (sign : Sign) (n : ℕ) : ℤ :=
  if sign.isMinus then -n else n

end Sign

theorem isDigit_bounds {c : Char} (h : c.isDigit = true) : 48 ≤ c.toNat ∧ c.toNat ≤ 57 := by
  delta Char.isDigit at h
  simpa [UInt32.le_iff_toNat_le] using h

theorem isBlank_of_isDigit {c : Char} (h : c.isDigit = true) : isBlank c = false := by
  obtain ⟨hlow, hhigh⟩ := isDigit_bounds h
  exact isBlank_of_graphic (by omega) (by omega)

theorem isRun_iff {digits : Text} :
    (digits.isEmpty || !digits.all Char.isDigit) = false ↔
      digits ≠ [] ∧ ∀ c ∈ digits, c.isDigit = true := by
  simp

namespace Decimal

theorem takeSign_of_head {s : Text} (h : ∀ c, s.head? = some c → c ≠ '-' ∧ c ≠ '+') :
    takeSign s = (false, s) := by
  unfold takeSign
  split
  · exact absurd rfl (h _ rfl).1
  · exact absurd rfl (h _ rfl).2
  · rfl

theorem takeSign_text {s : Text} (sign : Sign) (h : ∀ c, s.head? = some c → c ≠ '-' ∧ c ≠ '+') :
    takeSign (sign.text ++ s) = (sign.isMinus, s) := by
  cases sign with
  | absent => exact takeSign_of_head h
  | plus => rfl
  | minus => rfl

/-- Every text is a sign, which may be absent, and what follows the sign. -/
theorem exists_sign (s : Text) :
    ∃ sign : Sign, s = sign.text ++ (takeSign s).2 ∧ (takeSign s).1 = sign.isMinus := by
  unfold takeSign
  split
  · exact ⟨.minus, rfl, rfl⟩
  · exact ⟨.plus, rfl, rfl⟩
  · exact ⟨.absent, rfl, rfl⟩

end Decimal

/-- A run of digits after a sign.  There may be no digit. -/
structure SignedDigits where
  sign : Sign
  digits : Text
  isDigit : ∀ c ∈ digits, c.isDigit = true

namespace SignedDigits

def text (w : SignedDigits) : Text :=
  w.sign.text ++ w.digits

def value (w : SignedDigits) : ℤ :=
  w.sign.apply (Nat.ofDigitChars 10 w.digits 0)

theorem isDigit_ne_sign {c : Char} (h : c.isDigit = true) : c ≠ '-' ∧ c ≠ '+' := by
  constructor <;> rintro rfl <;> simp at h

theorem takeSign_text (w : SignedDigits) :
    Decimal.takeSign w.text = (w.sign.isMinus, w.digits) :=
  Decimal.takeSign_text w.sign fun _ hc ↦
    isDigit_ne_sign (w.isDigit _ (List.mem_of_mem_head? hc))

/-- An integer is read from signed digits exactly if there is a digit and the integer fits. -/
theorem wordInteger?_eq_some_iff (w : SignedDigits) {n : ℤ} :
    wordInteger? w.text = some n ↔ w.digits ≠ [] ∧ IsInt64 w.value ∧ n = w.value := by
  have hall : w.digits.all Char.isDigit = true := List.all_eq_true.mpr w.isDigit
  have hvalue : (if w.sign.isMinus = true then -(Text.digitsToNat w.digits : ℤ)
      else Text.digitsToNat w.digits) = w.value := rfl
  unfold wordInteger?
  rw [takeSign_text]
  simp only [hall, hvalue, Bool.not_true, Bool.or_false, List.isEmpty_iff]
  by_cases hempty : w.digits = []
  · simp [hempty]
  · rw [if_neg hempty]
    split_ifs with hfits
    · simp [hempty, show IsInt64 w.value from hfits, eq_comm]
    · simp [show ¬ IsInt64 w.value from hfits]

/-- The front of a text goes on with the digits after it. -/
theorem integerFront_append (w : SignedDigits) (hne : w.text ≠ []) (rest : Text) :
    integerFront (w.text ++ rest) = w.text ++ rest.takeWhile Char.isDigit := by
  obtain ⟨sign, digits, hdigits⟩ := w
  have htake : (digits ++ rest).takeWhile Char.isDigit = digits ++ rest.takeWhile Char.isDigit :=
    List.takeWhile_append_of_pos hdigits
  cases sign with
  | plus =>
      change '+' :: (digits ++ rest).takeWhile Char.isDigit = _
      rw [htake]
      rfl
  | minus =>
      change '-' :: (digits ++ rest).takeWhile Char.isDigit = _
      rw [htake]
      rfl
  | absent =>
      change integerFront (digits ++ rest) = digits ++ rest.takeWhile Char.isDigit
      cases digits with
      | nil => exact absurd rfl hne
      | cons d digits =>
          obtain ⟨hminus, hplus⟩ := isDigit_ne_sign (hdigits d List.mem_cons_self)
          rw [List.cons_append, integerFront, if_neg (by simp [hminus, hplus]), ← List.cons_append,
            htake]

/-- Signed digits at the front of a text are part of what the scan takes. -/
theorem text_prefix_integerFront (w : SignedDigits) {s : Text} (h : w.text <+: s) :
    w.text <+: integerFront s := by
  obtain ⟨rest, rfl⟩ := h
  by_cases hne : w.text = []
  · rw [hne]
    exact List.nil_prefix
  · rw [integerFront_append w hne]
    exact List.prefix_append _ _

/-- What the scan takes is at the front of the text and is made of signed digits. -/
theorem exists_text_eq_integerFront (s : Text) :
    integerFront s <+: s ∧ ∃ w : SignedDigits, w.text = integerFront s := by
  have hdigits : ∀ t : Text, ∀ c ∈ t.takeWhile Char.isDigit, c.isDigit = true :=
    fun _ _ hc ↦ List.mem_takeWhile_imp hc
  cases s with
  | nil => exact ⟨List.nil_prefix, ⟨.absent, [], by simp⟩, rfl⟩
  | cons c rest =>
      rw [integerFront]
      split
      · next hsign =>
        refine ⟨List.cons_prefix_cons.mpr ⟨rfl, List.takeWhile_prefix _⟩, ?_⟩
        rcases hsign with rfl | rfl
        · exact ⟨⟨.minus, _, hdigits rest⟩, rfl⟩
        · exact ⟨⟨.plus, _, hdigits rest⟩, rfl⟩
      · exact ⟨List.takeWhile_prefix _, ⟨.absent, _, hdigits (c :: rest)⟩, rfl⟩

theorem trimStart_append (w : SignedDigits) (hdigit : w.digits ≠ []) (rest : Text) :
    Text.trimStart (w.text ++ rest) = w.text ++ rest := by
  obtain ⟨sign, digits, hdigits⟩ := w
  cases sign with
  | plus => rfl
  | minus => rfl
  | absent =>
      cases digits with
      | nil => exact absurd rfl hdigit
      | cons d digits =>
          have hblank := isBlank_of_isDigit (hdigits d List.mem_cons_self)
          exact List.dropWhile_cons_of_neg (by simp [hblank])

/-- The text of an integer is one of signed digits, which denote the integer. -/
theorem exists_text_eq_ofInt (n : ℤ) :
    ∃ w : SignedDigits, w.text = Text.ofInt n ∧ w.digits ≠ [] ∧ w.value = n := by
  have hdigits : ∀ k : ℕ, ∀ c ∈ Text.ofNat k, c.isDigit = true :=
    fun _ _ hc ↦ Text.isDigit_of_mem_ofNat hc
  have hread : ∀ k : ℕ, Nat.ofDigitChars 10 (Text.ofNat k) 0 = k := Text.digitsToNat_ofNat
  cases n with
  | ofNat n =>
      refine ⟨⟨.absent, _, hdigits n⟩, rfl, Text.ofNat_ne_nil n, ?_⟩
      exact congrArg Int.ofNat (hread n)
  | negSucc n =>
      refine ⟨⟨.minus, _, hdigits (n + 1)⟩, rfl, Text.ofNat_ne_nil (n + 1), ?_⟩
      exact congrArg (fun k : ℕ ↦ -(k : ℤ)) (hread (n + 1))

end SignedDigits

end EndpointDocs
