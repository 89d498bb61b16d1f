import EndpointDocs.Text.Blank
import Mathlib.Data.List.DropRight
import Mathlib.Data.List.TakeDrop

/-!
# Words and blanks

Trimming takes away blanks only, from both ends and as many as there are, and the first word of a
text is cut off without loss.  What a text says is the sequence of its characters that are not
blank.
-/

namespace EndpointDocs.Text

/-- The characters of a text that are not blank, in order. -/
def nonBlanks (s : Text) : Text :=
  s.filter fun c ↦ !isBlank c

@[simp] theorem nonBlanks_nil : nonBlanks [] = [] := rfl

@[simp] theorem nonBlanks_append (s t : Text) :
    nonBlanks (s ++ t) = nonBlanks s ++ nonBlanks t :=
  List.filter_append ..

theorem nonBlanks_eq_nil_iff {s : Text} : nonBlanks s = [] ↔ ∀ c ∈ s, isBlank c = true := by
  simp [nonBlanks]

theorem nonBlanks_eq_self_iff {s : Text} : nonBlanks s = s ↔ ∀ c ∈ s, isBlank c = false := by
  simp [nonBlanks]

/-! ## Trimming -/

/-- A contiguous piece of a text with no blank at either end. -/
structure IsPiece (piece s : Text) : Prop where
  isInfix : piece <:+: s
  head_not_blank : ∀ c, piece.head? = some c → isBlank c = false
  last_not_blank : ∀ c, piece.getLast? = some c → isBlank c = false

theorem IsPiece.of_isInfix {piece part s : Text} (h : IsPiece piece part) (hpart : part <:+: s) :
    IsPiece piece s :=
  ⟨h.isInfix.trans hpart, h.head_not_blank, h.last_not_blank⟩

theorem eq_append_trimStart (s : Text) :
    ∃ front, s = front ++ trimStart s ∧ ∀ c ∈ front, isBlank c = true :=
  ⟨s.takeWhile isBlank, List.takeWhile_append_dropWhile.symm, fun _ h ↦ List.mem_takeWhile_imp h⟩

theorem eq_append_trimEnd (s : Text) :
    ∃ back, s = trimEnd s ++ back ∧ ∀ c ∈ back, isBlank c = true :=
  ⟨s.rtakeWhile isBlank, List.rdropWhile_append_rtakeWhile.symm,
    fun _ h ↦ List.mem_rtakeWhile_imp h⟩

theorem eq_append_trim (s : Text) :
    ∃ front back, s = front ++ trim s ++ back ∧ (∀ c ∈ front, isBlank c = true) ∧
      ∀ c ∈ back, isBlank c = true := by
  obtain ⟨front, hstart, hfront⟩ := eq_append_trimStart s
  obtain ⟨back, hend, hback⟩ := eq_append_trimEnd (trimStart s)
  refine ⟨front, back, ?_, hfront, hback⟩
  rw [List.append_assoc, trim, ← hend, ← hstart]

@[simp] theorem trim_nil : trim [] = [] := rfl

theorem nonBlanks_trim (s : Text) : nonBlanks (trim s) = nonBlanks s := by
  obtain ⟨front, back, hs, hfront, hback⟩ := eq_append_trim s
  conv_rhs => rw [hs]
  simp [nonBlanks_eq_nil_iff.mpr hfront, nonBlanks_eq_nil_iff.mpr hback]

theorem trim_isInfix (s : Text) : trim s <:+: s := by
  obtain ⟨front, back, hs, -, -⟩ := eq_append_trim s
  exact ⟨front, back, hs.symm⟩

theorem head_trimStart {s : Text} {c : Char} (h : (trimStart s).head? = some c) :
    isBlank c = false := by
  have hhead := List.head?_dropWhile_not isBlank s
  rw [trimStart] at h
  rwa [h] at hhead

theorem last_trimEnd {s : Text} {c : Char} (h : (trimEnd s).getLast? = some c) :
    isBlank c = false := by
  obtain ⟨hne, rfl⟩ := List.mem_getLast?_eq_getLast h
  have hnot := List.rdropWhile_last_not isBlank s hne
  exact Bool.eq_false_iff.mpr hnot

theorem isPiece_trim (s : Text) : IsPiece (trim s) s where
  isInfix := trim_isInfix s
  head_not_blank := by
    intro c hc
    obtain ⟨back, hend, -⟩ := eq_append_trimEnd (trimStart s)
    apply head_trimStart
    rw [hend, List.head?_append, ← trim, hc]
    rfl
  last_not_blank := fun _ hc ↦ last_trimEnd hc

/-- Trimming leaves a text as it is exactly if there is no blank at either end. -/
theorem trim_eq_self_iff {s : Text} : trim s = s ↔ IsPiece s s := by
  constructor
  · intro h
    have hpiece := isPiece_trim s
    rwa [h] at hpiece
  · intro h
    have hstart : trimStart s = s := by
      cases s with
      | nil => rfl
      | cons c s => exact List.dropWhile_cons_of_neg (by simp [h.head_not_blank c rfl])
    rw [trim, hstart]
    apply List.rdropWhile_eq_self_iff.mpr
    intro hne
    simp [h.last_not_blank _ (List.getLast?_eq_some_getLast hne)]

theorem trim_trim (s : Text) : trim (trim s) = trim s :=
  trim_eq_self_iff.mpr { isPiece_trim s with isInfix := List.infix_rfl }

/-- Blanks in front of a text make no difference to what is left of it. -/
theorem trim_append_of_blank {front : Text} (h : ∀ c ∈ front, isBlank c = true) (s : Text) :
    trim (front ++ s) = trim s := by
  have hstart : trimStart (front ++ s) = trimStart s := List.dropWhile_append_of_pos h
  rw [trim, trim, hstart]

theorem trim_eq_self_of_forall {s : Text} (h : ∀ c ∈ s, isBlank c = false) : trim s = s := by
  have hkept := nonBlanks_eq_self_iff.mpr h
  have hlength : (nonBlanks (trim s)).length ≤ (trim s).length := List.length_filter_le ..
  rw [nonBlanks_trim, hkept] at hlength
  exact (trim_isInfix s).eq_of_length_le hlength

/-- Trimming at the end, character by character from the front. -/
theorem trimEnd_cons (c : Char) (s : Text) :
    trimEnd (c :: s) = if nonBlanks (c :: s) = [] then [] else c :: trimEnd s := by
  have hblanks : (s.reverse.dropWhile isBlank).isEmpty = true ↔ nonBlanks s = [] := by
    rw [List.isEmpty_iff, List.dropWhile_eq_nil_iff, nonBlanks_eq_nil_iff]
    simp
  rw [trimEnd, trimEnd, dropEndWhile, dropEndWhile, List.reverse_cons, List.dropWhile_append]
  by_cases hs : nonBlanks s = []
  · rw [if_pos (hblanks.mpr hs), List.isEmpty_iff.mp (hblanks.mpr hs)]
    cases hc : isBlank c <;> simp_all [nonBlanks]
  · have hcons : nonBlanks (c :: s) ≠ [] := by
      rw [← List.singleton_append, nonBlanks_append]
      simp [hs]
    rw [if_neg (mt hblanks.mp hs), if_neg hcons, List.reverse_append]
    rfl

/-! ## The first word -/

theorem splitBlank_eq (s : Text) :
    splitBlank s = (s.takeWhile fun c ↦ !isBlank c, s.dropWhile fun c ↦ !isBlank c) :=
  List.span_eq_takeWhile_dropWhile ..

theorem splitBlank_cons (c : Char) (s : Text) :
    splitBlank (c :: s) =
      if isBlank c then ([], c :: s) else (c :: (splitBlank s).1, (splitBlank s).2) := by
  rw [splitBlank_eq, splitBlank_eq]
  cases hc : isBlank c <;> simp [hc]

theorem splitBlank_word {word rest : Text} (hword : ∀ c ∈ word, isBlank c = false)
    (hrest : ∀ c, rest.head? = some c → isBlank c = true) :
    splitBlank (word ++ rest) = (word, rest) := by
  induction word with
  | nil =>
      cases rest with
      | nil => rfl
      | cons c rest => rw [List.nil_append, splitBlank_cons, if_pos (hrest c rfl)]
  | cons c word ih =>
      obtain ⟨hc, hothers⟩ := List.forall_mem_cons.mp hword
      rw [List.cons_append, splitBlank_cons, hc, ih hothers]
      rfl

theorem append_splitBlank (s : Text) : (splitBlank s).1 ++ (splitBlank s).2 = s := by
  rw [splitBlank_eq]
  exact List.takeWhile_append_dropWhile

theorem nextWord?_eq_none_iff {s : Text} : nextWord? s = none ↔ nonBlanks s = [] := by
  rw [nonBlanks_eq_nil_iff, ← List.dropWhile_eq_nil_iff, ← trimStart, nextWord?]
  cases trimStart s <;> simp

theorem splitBlank_of_nextWord? {s word rest : Text} (h : nextWord? s = some (word, rest)) :
    splitBlank (trimStart s) = (word, rest) := by
  rw [nextWord?] at h
  cases hstart : trimStart s with
  | nil => simp [hstart] at h
  | cons c t => simpa [hstart] using h

/-- The first word is what follows the blanks at the front, up to the next blank. -/
theorem eq_append_of_nextWord? {s word rest : Text} (h : nextWord? s = some (word, rest)) :
    ∃ front, s = front ++ (word ++ rest) ∧ (∀ c ∈ front, isBlank c = true) ∧
      ∀ c ∈ word, isBlank c = false := by
  obtain ⟨front, hs, hfront⟩ := eq_append_trimStart s
  have hsplit := splitBlank_of_nextWord? h
  have hword : word ++ rest = trimStart s := by
    rw [← append_splitBlank (trimStart s), hsplit]
  refine ⟨front, hword ▸ hs, hfront, ?_⟩
  intro c hc
  rw [splitBlank_eq, Prod.mk.injEq] at hsplit
  rw [← hsplit.1] at hc
  simpa using List.mem_takeWhile_imp hc

/-- What follows the first word is nothing or begins with a blank. -/
theorem head_blank_of_nextWord? {s word rest : Text} (h : nextWord? s = some (word, rest))
    {c : Char} (hc : rest.head? = some c) : isBlank c = true := by
  have hsplit := splitBlank_of_nextWord? h
  obtain ⟨-, rfl⟩ := Prod.mk.inj ((splitBlank_eq _).symm.trans hsplit)
  have hhead := List.head?_dropWhile_not (fun c ↦ !isBlank c) (trimStart s)
  simpa [hc] using hhead

theorem ne_nil_of_nextWord? {s word rest : Text} (h : nextWord? s = some (word, rest)) :
    word ≠ [] := by
  rintro rfl
  have hsplit := splitBlank_of_nextWord? h
  cases hstart : trimStart s with
  | nil => simp [nextWord?, hstart] at h
  | cons c t =>
      have hc : isBlank c = false := head_trimStart (s := s) (by rw [hstart]; rfl)
      simp [hstart, splitBlank_cons, hc] at hsplit

/-- The first word and the characters of what follows are all that a text holds but blanks. -/
theorem nonBlanks_of_nextWord? {s word rest : Text} (h : nextWord? s = some (word, rest)) :
    nonBlanks s = word ++ nonBlanks rest := by
  obtain ⟨front, rfl, hfront, hword⟩ := eq_append_of_nextWord? h
  simp [nonBlanks_eq_nil_iff.mpr hfront, nonBlanks_eq_self_iff.mpr hword]

theorem isSuffix_of_nextWord? {s word rest : Text} (h : nextWord? s = some (word, rest)) :
    rest <:+ s := by
  obtain ⟨front, rfl, -, -⟩ := eq_append_of_nextWord? h
  exact ⟨front ++ word, List.append_assoc ..⟩

theorem splitBlank_append {s : Text} (h : (splitBlank s).2 ≠ []) (t : Text) :
    splitBlank (s ++ t) = ((splitBlank s).1, (splitBlank s).2 ++ t) := by
  induction s with
  | nil => exact absurd rfl h
  | cons c s ih =>
      rw [List.cons_append, splitBlank_cons, splitBlank_cons]
      rw [splitBlank_cons] at h
      cases hc : isBlank c with
      | true => rfl
      | false =>
          rw [hc] at h
          rw [ih h]
          rfl

theorem nextWord?_append {s word rest : Text} (h : nextWord? s = some (word, rest))
    (hrest : rest ≠ []) (t : Text) : nextWord? (s ++ t) = some (word, rest ++ t) := by
  unfold nextWord? at h ⊢
  cases hstart : trimStart s with
  | nil => simp [hstart] at h
  | cons c u =>
      have hsplit : splitBlank (c :: u) = (word, rest) := by simpa [hstart] using h
      have happend : trimStart (s ++ t) = c :: u ++ t := by
        rw [trimStart] at hstart
        rw [trimStart, List.dropWhile_append, hstart]
        rfl
      have hlater : (splitBlank (c :: u)).2 ≠ [] := by rwa [hsplit]
      rw [happend, List.cons_append]
      dsimp only
      rw [← List.cons_append, splitBlank_append hlater, hsplit]

/-! ## All words -/

def words (s : Text) : List Text :=
  (s.splitOnP isBlank).filter fun word ↦ !word.isEmpty

@[simp] theorem words_nil : words [] = [] := by simp [words]

/-- Between two words there is a blank, and it does not matter which one. -/
theorem words_append_cons (s : Text) {c : Char} (h : isBlank c = true) (t : Text) :
    words (s ++ c :: t) = words s ++ words t := by
  rw [words, List.splitOnP_append_cons s t h, List.filter_append, words, words]

theorem words_cons {c : Char} (h : isBlank c = true) (s : Text) : words (c :: s) = words s := by
  simpa using words_append_cons [] h s

theorem words_append_of_blank {front : Text} (h : ∀ c ∈ front, isBlank c = true) (s : Text) :
    words (front ++ s) = words s := by
  induction front with
  | nil => rfl
  | cons c front ih =>
      obtain ⟨hc, hfront⟩ := List.forall_mem_cons.mp h
      rw [List.cons_append, words_cons hc, ih hfront]

theorem words_append_of_head_blank (s : Text) {t : Text}
    (h : ∀ c, t.head? = some c → isBlank c = true) : words (s ++ t) = words s ++ words t := by
  cases t with
  | nil => simp
  | cons c t =>
      have hc : isBlank c = true := h c rfl
      rw [words_append_cons s hc, words_cons hc]

theorem words_eq_singleton {word : Text} (h : ∀ c ∈ word, isBlank c = false) (hne : word ≠ []) :
    words word = [word] := by
  rw [words, List.splitOnP_eq_singleton h]
  simpa using hne

/-- The first word and the words of what follows it are the words of a text. -/
theorem words_of_nextWord? {s word rest : Text} (h : nextWord? s = some (word, rest)) :
    words s = word :: words rest := by
  obtain ⟨front, hs, hfront, hword⟩ := eq_append_of_nextWord? h
  rw [hs, words_append_of_blank hfront,
    words_append_of_head_blank word fun c ↦ head_blank_of_nextWord? h,
    words_eq_singleton hword (ne_nil_of_nextWord? h)]
  rfl

theorem words_eq_nil_iff {s : Text} : words s = [] ↔ nonBlanks s = [] := by
  constructor
  · intro h
    cases hnext : nextWord? s with
    | none => exact nextWord?_eq_none_iff.mp hnext
    | some found =>
        rw [words_of_nextWord? hnext] at h
        cases h
  · intro h
    have hblank := words_append_of_blank (nonBlanks_eq_nil_iff.mp h) []
    rwa [List.append_nil, words_nil] at hblank

/-- The words of a text begin with a word and some more where the word is cut off first and the rest
begins with these. -/
theorem cons_prefix_words_iff {s word : Text} {more : List Text} :
    word :: more <+: words s ↔ ∃ rest, nextWord? s = some (word, rest) ∧ more <+: words rest := by
  cases hnext : nextWord? s with
  | none =>
      have hwords := words_eq_nil_iff.mpr (nextWord?_eq_none_iff.mp hnext)
      simp [hwords]
  | some found =>
      obtain ⟨first, rest⟩ := found
      rw [words_of_nextWord? hnext, List.cons_prefix_cons]
      constructor
      · rintro ⟨rfl, hmore⟩
        exact ⟨rest, rfl, hmore⟩
      · rintro ⟨later, hfound, hmore⟩
        cases hfound
        exact ⟨rfl, hmore⟩

/-- Of two words the first stays the first word, whatever is written behind them. -/
theorem exists_nextWord?_append {s : Text} {n : Nat} (h : n + 1 < s.words.length) :
    ∃ word rest, n < rest.words.length ∧ ∀ t, nextWord? (s ++ t) = some (word, rest ++ t) := by
  cases hnext : nextWord? s with
  | none =>
      have hwords := words_eq_nil_iff.mpr (nextWord?_eq_none_iff.mp hnext)
      simp [hwords] at h
  | some found =>
      obtain ⟨word, rest⟩ := found
      have hlength : n < rest.words.length := by
        simpa [words_of_nextWord? hnext] using h
      have hrest : rest ≠ [] := by
        rintro rfl
        simp at hlength
      exact ⟨word, rest, hlength, nextWord?_append hnext hrest⟩

theorem words_trim (s : Text) : words (trim s) = words s := by
  obtain ⟨front, back, hs, hfront, hback⟩ := eq_append_trim s
  conv_rhs => rw [hs, List.append_assoc, words_append_of_blank hfront]
  cases back with
  | nil => rw [List.append_nil]
  | cons c back =>
      obtain ⟨hc, hblank⟩ := List.forall_mem_cons.mp hback
      rw [words_append_cons _ hc, ← List.append_nil back, words_append_of_blank hblank]
      simp

end EndpointDocs.Text
