import EndpointDocs.Proofs.Occurrence

/-!
# Replacing a piece

A text without the piece stays as it is.  A piece that begins with a character that it does not have
again cannot overlap itself, so where it stands it is replaced whatever is around it.
-/

namespace EndpointDocs.Text

/-- A piece cannot begin in a text that does not have the character it begins with. -/
theorem infix_of_infix_append {mark : Char} {body s t : Text} (hs : mark ∉ s)
    (h : mark :: body <:+: s ++ t) : mark :: body <:+: t := by
  induction s with
  | nil => exact h
  | cons c s ih =>
      obtain ⟨hc, hs⟩ := not_or.mp (mt List.mem_cons.mpr hs)
      rw [List.cons_append, List.infix_cons_iff, List.cons_prefix_cons] at h
      exact ih hs (h.resolve_left fun hhead ↦ hc hhead.1)

/-- The characters still to be passed over may as well be dropped. -/
theorem replaceFrom_eq_drop (piece new : Text) (skip : ℕ) (s : Text) :
    replaceFrom piece new skip s = replace piece new (s.drop skip) := by
  induction s generalizing skip with
  | nil => cases skip <;> rfl
  | cons c s ih =>
      cases skip with
      | zero => rfl
      | succ skip => exact ih skip

theorem replace_append_self {piece : Text} (hne : piece ≠ []) (new s : Text) :
    replace piece new (piece ++ s) = new ++ replace piece new s := by
  obtain ⟨c, body, rfl⟩ := List.exists_cons_of_ne_nil hne
  have hprefix : (c :: body).isPrefixOf (c :: (body ++ s)) = true :=
    List.isPrefixOf_iff_prefix.mpr (List.prefix_append (c :: body) s)
  rw [List.cons_append, replace, replaceFrom, if_pos hprefix, replaceFrom_eq_drop]
  simp

theorem replace_cons {piece s : Text} {c : Char} (h : ¬ piece <+: c :: s) (new : Text) :
    replace piece new (c :: s) = c :: replace piece new s := by
  rw [replace, replaceFrom, if_neg (mt List.isPrefixOf_iff_prefix.mp h)]
  rfl

/-- A text without the piece stays as it is. -/
theorem replace_eq_self {piece s : Text} (h : ¬ piece <:+: s) (new : Text) :
    replace piece new s = s := by
  induction s with
  | nil => rfl
  | cons c s ih =>
      rw [List.infix_cons_iff, not_or] at h
      rw [replace_cons h.1, ih h.2]

/-- A piece that does not stand in the text in front of it is the first to be replaced. -/
theorem replace_append {mark : Char} {body : Text} (hmark : mark ∉ body) {s : Text}
    (hs : ¬ mark :: body <:+: s) (new t : Text) :
    replace (mark :: body) new (s ++ (mark :: body ++ t)) =
      s ++ (new ++ replace (mark :: body) new t) := by
  induction s with
  | nil => exact replace_append_self (List.cons_ne_nil mark body) new t
  | cons c s ih =>
      rw [List.infix_cons_iff, not_or] at hs
      have hprefix : ¬ mark :: body <+: c :: (s ++ (mark :: body ++ t)) := by
        rw [List.cons_append, List.cons_prefix_cons, prefix_append_cons_iff hmark,
          ← List.cons_prefix_cons]
        exact hs.1
      rw [List.cons_append, replace_cons hprefix, ih hs.2, List.cons_append]

end EndpointDocs.Text
