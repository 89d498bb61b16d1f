import EndpointDocs.Proofs.CaseImages
import EndpointDocs.Proofs.Splitting
import EndpointDocs.WordCase
import Mathlib.Data.List.DropRight
import Mathlib.Data.List.Infix
import Mathlib.Logic.Relation

/-!
# Words and the runs between them

A run of separators counts as one, and as none at either end of a name.  So snake case and camel
case depend on the words alone, snake case has single underscores between words, and what camel case
is made of are letters and numbers.
-/

namespace EndpointDocs.WordCase

variable {name run other : Text}

/-- Separators, at least one. -/
structure IsRun (run : Text) : Prop where
  ne_nil : run ≠ []
  isSeparator : ∀ c ∈ run, isSeparator c = true

/-- A run of separators is put in the place of another one, or at an end of a name. -/
inductive Reseparated : Text → Text → Prop
  | between (before after : Text) {run other : Text} : IsRun run → IsRun other →
      Reseparated (before ++ run ++ after) (before ++ other ++ after)
  | front (name : Text) {run : Text} : IsRun run → Reseparated name (run ++ name)
  | back (name : Text) {run : Text} : IsRun run → Reseparated name (name ++ run)

/-! ## The draft after a run -/

theorem add_of_isSeparator {c : Char} (hc : isSeparator c = true) (d : Draft) :
    d.add c = ⟨d.separate, false⟩ := by
  have hcase : c = '-' ∨ c = '_' ∨ c = ' ' := by
    simpa [isSeparator, or_assoc] using hc
  have hplain : isUppercase c = false ∧ isAlphanumeric c = false := by
    rcases hcase with rfl | rfl | rfl <;> decide
  simp [Draft.add, hplain, hc]

theorem separate_eq (d : Draft) :
    d.separate = if d.written = [] ∨ d.written.getLast? = some '_' then d.written
      else d.written ++ ['_'] := by
  simp [Draft.separate]

theorem separate_separate (d : Draft) (b : Bool) : Draft.separate ⟨d.separate, b⟩ = d.separate := by
  have hends : d.separate = [] ∨ d.separate.getLast? = some '_' := by
    rw [separate_eq]
    split
    · next hdone => exact hdone
    · exact .inr List.getLast?_concat
  rw [separate_eq]
  exact if_pos hends

theorem foldl_add_run (h : IsRun run) (d : Draft) :
    run.foldl Draft.add d = ⟨d.separate, false⟩ := by
  obtain ⟨hne, hsep⟩ := h
  induction run using List.reverseRecOn with
  | nil => exact absurd rfl hne
  | append_singleton run c ih =>
      rw [List.foldl_append, List.foldl_cons, List.foldl_nil,
        add_of_isSeparator (hsep c (by simp))]
      by_cases hrun : run = []
      · subst hrun
        rfl
      · rw [ih hrun fun d hd ↦ hsep d (List.mem_append_left _ hd), separate_separate]

theorem draft_append (name more : Text) :
    draft (name ++ more) = more.foldl Draft.add (draft name) :=
  List.foldl_append

/-! ## Single underscores -/

/-- A text without the underscores at either end. -/
def strip (s : Text) : Text :=
  Text.dropEndWhile (· == '_') (s.dropWhile (· == '_'))

/-- What is written in a draft, with single underscores. -/
def single (d : Draft) : Text :=
  d.written.foldl addSingle []

theorem snake_eq_strip (name : Text) : snake name = strip (single (draft name)) := rfl

theorem strip_concat (s : Text) : strip (s ++ ['_']) = strip s := by
  rw [strip, strip, List.dropWhile_append]
  split
  · next hnil =>
    rw [List.isEmpty_iff.mp hnil]
    rfl
  · exact List.rdropWhile_concat_pos _ _ _ (by decide)

theorem strip_single_separate (d : Draft) (b : Bool) :
    strip (single ⟨d.separate, b⟩) = strip (single d) := by
  rw [single, single, Draft.separate]
  split
  · rfl
  · rw [List.foldl_append, List.foldl_cons, List.foldl_nil, addSingle]
    split
    · rfl
    · exact strip_concat _

/-- The words of a name do not depend on the separators between them. -/
theorem snake_of_reseparated (h : Reseparated name other) : snake other = snake name := by
  rw [snake_eq_strip, snake_eq_strip]
  cases h with
  | between before after hrun hother =>
      rw [draft_append, draft_append, draft_append, draft_append, foldl_add_run hrun,
        foldl_add_run hother]
  | @front _ run hrun =>
      have hstart : draft run = ⟨[], false⟩ := foldl_add_run hrun ⟨[], false⟩
      rw [draft_append, hstart]
      rfl
  | back _ hrun =>
      rw [draft_append, foldl_add_run hrun, strip_single_separate]

/-! ## The shape of snake case -/

/-- No two underscores are written in a row. -/
theorem not_double_addSingle {written : Text} (h : ¬ ['_', '_'] <:+: written) (c : Char) :
    ¬ ['_', '_'] <:+: addSingle written c := by
  rw [addSingle]
  split
  · exact h
  · next hopen =>
    rw [List.infix_concat_iff]
    rintro (hend | hinside)
    · obtain ⟨rest, hrest⟩ := hend
      have hsplit : (rest ++ ['_']) ++ ['_'] = written ++ [c] := by simpa using hrest
      obtain ⟨rfl, hc⟩ := List.append_inj' hsplit rfl
      obtain rfl : '_' = c := by simpa using hc
      apply hopen
      simp
    · exact h hinside

theorem not_double_single (d : Draft) : ¬ ['_', '_'] <:+: single d := by
  rw [single]
  induction d.written using List.reverseRecOn with
  | nil => simp
  | append_singleton written c ih =>
      rw [List.foldl_append]
      exact not_double_addSingle ih c

theorem strip_isPrefix (s : Text) : strip s <+: s.dropWhile (· == '_') :=
  List.rdropWhile_prefix _ _

theorem strip_isInfix (s : Text) : strip s <:+: s :=
  (strip_isPrefix s).isInfix.trans (List.dropWhile_suffix _).isInfix

theorem head_strip (s : Text) : (strip s).head? ≠ some '_' := by
  intro hhead
  obtain ⟨back, hback⟩ := strip_isPrefix s
  have hnot := List.head?_dropWhile_not (· == '_') s
  rw [← hback, List.head?_append, hhead] at hnot
  simp at hnot

theorem last_strip (s : Text) : (strip s).getLast? ≠ some '_' := by
  intro hlast
  obtain ⟨hne, heq⟩ := List.mem_getLast?_eq_getLast hlast
  have hnot := List.rdropWhile_last_not (· == '_') _ hne
  exact hnot (beq_iff_eq.mpr heq.symm)

/-! ## The characters of the words -/

/-- The characters that snake case keeps of a name: its letters and numbers, those in upper case as
their lower case. -/
def Kept (name : Text) (c : Char) : Prop :=
  (c ∈ name ∧ isAlphanumeric c = true) ∨ ∃ d ∈ name, isUppercase d = true ∧ c ∈ lowerChar d

theorem Kept.append {c : Char} (h : Kept name c) (more : Text) : Kept (name ++ more) c := by
  rcases h with ⟨hmem, hkept⟩ | ⟨d, hmem, hupper, hlower⟩
  · exact .inl ⟨List.mem_append_left _ hmem, hkept⟩
  · exact .inr ⟨d, List.mem_append_left _ hmem, hupper, hlower⟩

theorem Kept.not_isMark {c : Char} (h : Kept name c) : ¬ IsMark c := by
  rcases h with ⟨-, hkept⟩ | ⟨d, -, hupper, hlower⟩
  · exact not_isMark_of_isAlphanumeric hkept
  · exact not_isMark_of_mem_lowerChar (not_isMark_of_isUppercase hupper) hlower

/-- One more character writes an underscore or what is kept of it. -/
theorem mem_written_add {d : Draft} {c e : Char} (h : e ∈ (d.add c).written) :
    e ∈ d.written ∨ e = '_' ∨ Kept [c] e := by
  rw [Draft.add] at h
  split at h
  · next hupper =>
    simp only [List.append_assoc, List.mem_append] at h
    rcases h with h | h | h
    · exact .inl h
    · split at h
      · exact .inr (.inl (List.mem_singleton.mp h))
      · cases h
    · exact .inr (.inr (.inr ⟨c, List.mem_cons_self, hupper, h⟩))
  · split at h
    · next hkept =>
      rcases List.mem_append.mp h with h | h
      · exact .inl h
      · obtain rfl := List.mem_singleton.mp h
        exact .inr (.inr (.inl ⟨List.mem_cons_self, hkept⟩))
    · split at h
      · rw [separate_eq] at h
        split at h
        · exact .inl h
        · rcases List.mem_append.mp h with h | h
          · exact .inl h
          · exact .inr (.inl (List.mem_singleton.mp h))
      · exact .inl h

theorem mem_written {e : Char} (h : e ∈ (draft name).written) : e = '_' ∨ Kept name e := by
  induction name using List.reverseRecOn with
  | nil => cases h
  | append_singleton name c ih =>
      rw [draft_append] at h
      rcases mem_written_add h with h | h | h
      · exact (ih h).imp_right fun hkept ↦ hkept.append [c]
      · exact .inl h
      · right
        rcases h with ⟨hmem, hkept⟩ | ⟨d, hmem, hupper, hlower⟩
        · exact .inl ⟨List.mem_append_right _ hmem, hkept⟩
        · exact .inr ⟨d, List.mem_append_right _ hmem, hupper, hlower⟩

theorem mem_of_mem_foldl_addSingle {written : Text} {e : Char}
    (h : e ∈ written.foldl addSingle []) : e ∈ written := by
  induction written using List.reverseRecOn with
  | nil => cases h
  | append_singleton written c ih =>
      rw [List.foldl_append, List.foldl_cons, List.foldl_nil, addSingle] at h
      split at h
      · exact List.mem_append_left _ (ih h)
      · rcases List.mem_append.mp h with h | h
        · exact List.mem_append_left _ (ih h)
        · exact List.mem_append_right _ h

/-- Snake case writes nothing but underscores and what it keeps of the characters of the name. -/
theorem mem_snake {e : Char} (h : e ∈ snake name) : e = '_' ∨ Kept name e := by
  rw [snake_eq_strip] at h
  exact mem_written (mem_of_mem_foldl_addSingle ((strip_isInfix _).subset h))

theorem mem_upperCamel {e : Char} (h : e ∈ upperCamel name) :
    ∃ d, Kept name d ∧ (e = d ∨ e ∈ upperChar d) := by
  obtain ⟨word, hword, he⟩ := List.mem_flatMap.mp h
  have hkept (d : Char) (hd : d ∈ word) : Kept name d := by
    obtain ⟨hsnake, hne⟩ := Text.mem_of_mem_splitOn hword hd
    exact (mem_snake hsnake).resolve_left hne
  cases word with
  | nil => cases he
  | cons first rest =>
      rcases List.mem_append.mp he with he | he
      · exact ⟨first, hkept first List.mem_cons_self, .inr he⟩
      · exact ⟨e, hkept e (List.mem_cons_of_mem _ he), .inl rfl⟩

/-- Snake case and camel case stay the same when runs of separators are put in the place of one
another or come and go at the ends of a name.  Snake case neither begins nor ends with an underscore
and never has two in a row.  A character of camel case is a letter or number of the name, or one in
its lower case, its upper case, or the upper case of its lower case, and it is never a mark. -/
theorem snake_upperCamel_of_words (name : Text) :
    ((snake name).head? ≠ some '_' ∧ (snake name).getLast? ≠ some '_' ∧
        ¬ ['_', '_'] <:+: snake name) ∧
      (∀ other, Relation.EqvGen Reseparated name other →
        snake other = snake name ∧ upperCamel other = upperCamel name) ∧
      ∀ c ∈ upperCamel name, ¬ IsMark c ∧
        ∃ d ∈ name, (isAlphanumeric d = true ∨ isUppercase d = true) ∧
          (c = d ∨ c ∈ lowerChar d ∨ c ∈ upperChar d ∨ c ∈ (lowerChar d).flatMap upperChar) := by
  refine ⟨⟨head_strip _, last_strip _, ?_⟩, ?_, ?_⟩
  · intro hdouble
    exact not_double_single _ (hdouble.trans (strip_isInfix _))
  · intro other h
    have hsnake : snake other = snake name := by
      induction h with
      | rel _ _ h => exact snake_of_reseparated h
      | refl _ => rfl
      | symm _ _ _ ih => exact ih.symm
      | trans _ _ _ _ _ ih ih' => exact ih'.trans ih
    exact ⟨hsnake, by rw [upperCamel, upperCamel, hsnake]⟩
  · intro c hc
    obtain ⟨d, hkept, hd⟩ := mem_upperCamel hc
    constructor
    · rcases hd with rfl | hd
      · exact hkept.not_isMark
      · exact not_isMark_of_mem_upperChar hkept.not_isMark hd
    · rcases hkept with ⟨hmem, hletter⟩ | ⟨origin, hmem, hupper, hlower⟩
      · refine ⟨d, hmem, .inl hletter, ?_⟩
        rcases hd with rfl | hd
        · exact .inl rfl
        · exact .inr (.inr (.inl hd))
      · refine ⟨origin, hmem, .inr hupper, ?_⟩
        rcases hd with rfl | hd
        · exact .inr (.inl hlower)
        · exact .inr (.inr (.inr (List.mem_flatMap.mpr ⟨d, hlower, hd⟩)))

end EndpointDocs.WordCase
