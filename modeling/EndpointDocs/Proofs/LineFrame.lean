import EndpointDocs.Proofs.Splitting
import EndpointDocs.Proofs.Words
import Mathlib.Data.List.Forall2

/-!
# Lines and the blanks around them

A text is split at its line feeds.  Reading it line by line instead leaves out the carriage returns
before the line feeds and the empty end, and trimming it first leaves out blank lines at both ends
and blanks beside the outer lines.  Either way the lines are the same but for a frame of blanks.
-/

namespace EndpointDocs.Text

/-- A line with blanks around it. -/
def Padded (line core : Text) : Prop :=
  ∃ front back, line = front ++ (core ++ back) ∧ (∀ c ∈ front, isBlank c = true) ∧
    ∀ c ∈ back, isBlank c = true

/-- Lines with blanks around each, and with blank lines above and below. -/
def Framed (lines cores : List Text) : Prop :=
  ∃ above middle below, lines = above ++ (middle ++ below) ∧ List.Forall₂ Padded middle cores ∧
    ∀ line ∈ above ++ below, ∀ c ∈ line, isBlank c = true

theorem Padded.refl (line : Text) : Padded line line :=
  ⟨[], [], by simp, by simp, by simp⟩

theorem Padded.of_front {front : Text} (h : ∀ c ∈ front, isBlank c = true) (core : Text) :
    Padded (front ++ core) core :=
  ⟨front, [], by simp, h, by simp⟩

theorem Padded.of_back {back : Text} (h : ∀ c ∈ back, isBlank c = true) (core : Text) :
    Padded (core ++ back) core :=
  ⟨[], back, by simp, by simp, h⟩

theorem trimEnd_append_of_blank {back : Text} (h : ∀ c ∈ back, isBlank c = true) (s : Text) :
    trimEnd (s ++ back) = trimEnd s := by
  have hback : ∀ c ∈ back.reverse, isBlank c = true := fun c hc ↦ h c (List.mem_reverse.mp hc)
  rw [trimEnd, trimEnd, dropEndWhile, dropEndWhile, List.reverse_append,
    List.dropWhile_append_of_pos hback]

/-- The blanks around a line are taken off with those of its own. -/
theorem Padded.trim_eq {line core : Text} (h : Padded line core) : trim line = trim core := by
  obtain ⟨front, back, rfl, hfront, hback⟩ := h
  rw [trim_append_of_blank hfront, trim, trim, trimStart, trimStart, List.dropWhile_append]
  split
  · next hempty =>
    rw [List.dropWhile_eq_nil_iff.mpr hback, List.isEmpty_iff.mp hempty]
  · exact trimEnd_append_of_blank hback _

theorem Padded.eq_of_trim_eq_self {line core : Text} (h : Padded line core)
    (hline : trim line = line) : line = core := by
  obtain ⟨front, back, hsplit, hfront, hback⟩ := h
  have hcore : trim line <:+: core := by
    rw [Padded.trim_eq ⟨front, back, hsplit, hfront, hback⟩]
    exact trim_isInfix core
  rw [hline] at hcore
  apply hcore.eq_of_length_le
  rw [hsplit, List.length_append, List.length_append]
  omega

/-! ## Splitting -/

/-- Trimming takes away the blanks around the lines and beside the first and the last of them. -/
theorem framed_trim (s : Text) : Framed (s.splitOn '\n') ((trim s).splitOn '\n') := by
  obtain ⟨front, back, hs, hfront, hback⟩ := eq_append_trim s
  rw [List.append_assoc] at hs
  obtain ⟨above, pad, habove⟩ :=
    (List.eq_nil_or_concat' _).resolve_left (List.splitOn_ne_nil '\n' front)
  obtain ⟨init, last, hcore⟩ :=
    (List.eq_nil_or_concat' _).resolve_left (List.splitOn_ne_nil '\n' (trim s))
  obtain ⟨tail, below, hbelow⟩ := List.exists_cons_of_ne_nil (List.splitOn_ne_nil '\n' back)
  have hupper : ∀ line ∈ above ++ [pad], ∀ c ∈ line, isBlank c = true := fun line hline c hc ↦
    hfront c (mem_of_mem_splitOn (habove ▸ hline) hc).1
  have hunder : ∀ line ∈ tail :: below, ∀ c ∈ line, isBlank c = true := fun line hline c hc ↦
    hback c (mem_of_mem_splitOn (hbelow ▸ hline) hc).1
  have hpad := hupper pad (by simp)
  have htail := hunder tail List.mem_cons_self
  have houter : ∀ line ∈ above ++ below, ∀ c ∈ line, isBlank c = true := by
    intro line hline
    rcases List.mem_append.mp hline with hline | hline
    · exact hupper line (List.mem_append_left _ hline)
    · exact hunder line (List.mem_cons_of_mem _ hline)
  have hlower := splitOn_append hcore hbelow
  -- The first line and the last one may be the same.
  cases init with
  | nil =>
      have hlines := splitOn_append habove hlower
      rw [← hs] at hlines
      refine ⟨above, [pad ++ (last ++ tail)], below, hlines, ?_, houter⟩
      rw [hcore]
      exact .cons ⟨pad, tail, rfl, hpad, htail⟩ .nil
  | cons first init =>
      have hlines := splitOn_append habove hlower
      rw [← hs] at hlines
      refine ⟨above, (pad ++ first) :: (init ++ [last ++ tail]), below, ?_, ?_, houter⟩
      · rw [hlines]
        simp
      · rw [hcore]
        refine .cons (.of_front hpad first) (List.rel_append ?_ (.cons (.of_back htail last) .nil))
        exact List.forall₂_same.mpr fun line _ ↦ .refl line

/-- What is left out behind a line that is read. -/
def Cut (line core : Text) : Prop :=
  ∃ back, line = core ++ back ∧ ∀ c ∈ back, isBlank c = true

/-- Splitting at line feeds gives the lines with their endings, and perhaps an empty one below. -/
theorem exists_splitOn_eq_append (s : Text) :
    ∃ middle below, s.splitOn '\n' = middle ++ below ∧ List.Forall₂ Cut middle (lines s) ∧
      ∀ line ∈ below, line = [] := by
  fun_induction lines s with
  | case1 => exact ⟨[], [[]], rfl, .nil, by simp⟩
  | case2 s ih =>
      obtain ⟨middle, below, hsplit, hmiddle, hbelow⟩ := ih
      refine ⟨[] :: middle, below, ?_, .cons ⟨[], rfl, by simp⟩ hmiddle, hbelow⟩
      rw [List.splitOn_cons_eq_if_modifyHead, hsplit]
      rfl
  | case3 s ih =>
      obtain ⟨middle, below, hsplit, hmiddle, hbelow⟩ := ih
      have hreturn : ∀ c ∈ ['\r'], isBlank c = true := List.forall_mem_singleton.mpr rfl
      refine ⟨['\r'] :: middle, below, ?_, .cons ⟨['\r'], rfl, hreturn⟩ hmiddle, hbelow⟩
      rw [List.splitOn_cons_eq_if_modifyHead, List.splitOn_cons_eq_if_modifyHead, hsplit]
      rfl
  | case4 c s hc hcr hlines ih =>
      rw [hlines] at ih
      obtain ⟨middle, below, hsplit, hmiddle, hbelow⟩ := ih
      obtain rfl := List.forall₂_nil_right_iff.mp hmiddle
      obtain ⟨line, below, rfl⟩ := List.exists_cons_of_ne_nil
        (hsplit ▸ List.splitOn_ne_nil '\n' s : [] ++ below ≠ [])
      obtain ⟨rfl, hlower⟩ := List.forall_mem_cons.mp hbelow
      refine ⟨[[c]], below, ?_, .cons ⟨[], by simp, by simp⟩ .nil, hlower⟩
      rw [List.splitOn_cons_eq_if_modifyHead, if_neg (by simpa using hc), hsplit]
      rfl
  | case5 c s hc hcr first others hlines ih =>
      rw [hlines] at ih
      obtain ⟨middle, below, hsplit, hmiddle, hbelow⟩ := ih
      obtain ⟨line, middle, ⟨back, rfl, hback⟩, hothers, rfl⟩ :=
        List.forall₂_cons_right_iff.mp hmiddle
      refine ⟨(c :: (first ++ back)) :: middle, below, ?_, .cons ⟨back, rfl, hback⟩ hothers, hbelow⟩
      rw [List.splitOn_cons_eq_if_modifyHead, if_neg (by simpa using hc), hsplit]
      rfl

/-- Reading line by line leaves out carriage returns at the ends of lines and the empty end. -/
theorem framed_lines (s : Text) : Framed (s.splitOn '\n') (lines s) := by
  obtain ⟨middle, below, hsplit, hmiddle, hbelow⟩ := exists_splitOn_eq_append s
  refine ⟨[], middle, below, hsplit, hmiddle.imp ?_, ?_⟩
  · rintro line core ⟨back, rfl, hback⟩
    exact .of_back hback core
  · intro line hline c hc
    rw [hbelow line hline] at hc
    cases hc

theorem exists_mem_of_forall₂ {R : Text → Text → Prop} {lines cores : List Text}
    (h : List.Forall₂ R lines cores) {core : Text} (hcore : core ∈ cores) :
    ∃ line ∈ lines, R line core := by
  induction h with
  | nil => cases hcore
  | @cons line first lines cores hfirst _ ih =>
      rcases List.mem_cons.mp hcore with rfl | hcore
      · exact ⟨line, List.mem_cons_self, hfirst⟩
      · obtain ⟨other, hother, hrel⟩ := ih hcore
        exact ⟨other, List.mem_cons_of_mem line hother, hrel⟩

theorem newline_not_mem_of_mem_lines {s line : Text} (h : line ∈ lines s) : '\n' ∉ line := by
  obtain ⟨middle, below, hsplit, hmiddle, -⟩ := exists_splitOn_eq_append s
  obtain ⟨whole, hwhole, back, rfl, -⟩ := exists_mem_of_forall₂ hmiddle h
  have hmem : line ++ back ∈ s.splitOn '\n' := hsplit ▸ List.mem_append_left below hwhole
  exact fun hline ↦ (mem_of_mem_splitOn hmem (List.mem_append_left back hline)).2 rfl

end EndpointDocs.Text
