import EndpointDocs.Text.Basic

/-!
# Splitting and joining

A text is split at a character into the parts between, none of which holds that character.  Where
two texts meet, the last part of the one and the first part of the other become one part.
-/

namespace EndpointDocs.Text

theorem splitOn_append {mark : Char} {s t last first : Text} {init rest : List Text}
    (hs : s.splitOn mark = init ++ [last]) (ht : t.splitOn mark = first :: rest) :
    (s ++ t).splitOn mark = init ++ (last ++ first) :: rest := by
  induction s generalizing init last with
  | nil =>
      obtain ⟨rfl, rfl⟩ : init = [] ∧ last = [] := by
        cases init <;> simp_all
      exact ht
  | cons c s ih =>
      rw [List.splitOn_cons_eq_if_modifyHead] at hs
      rw [List.cons_append, List.splitOn_cons_eq_if_modifyHead]
      split at hs
      · next hc =>
        rw [if_pos hc]
        cases init with
        | nil => simp [List.splitOn_ne_nil] at hs
        | cons line init =>
            obtain ⟨rfl, hinit⟩ := List.cons.inj hs
            rw [ih hinit, List.cons_append]
      · next hc =>
        rw [if_neg hc]
        obtain ⟨line, others, hline⟩ := List.exists_cons_of_ne_nil (List.splitOn_ne_nil mark s)
        rw [hline, List.modifyHead_cons] at hs
        cases init with
        | nil =>
            obtain ⟨rfl, rfl⟩ := List.cons.inj hs
            have hinit : s.splitOn mark = [] ++ [line] := hline
            rw [ih hinit]
            rfl
        | cons head init =>
            obtain ⟨rfl, rfl⟩ := List.cons.inj hs
            have hinit : s.splitOn mark = (line :: init) ++ [last] := hline
            rw [ih hinit]
            rfl

theorem mem_of_mem_splitOn {mark c : Char} {s line : Text} (h : line ∈ s.splitOn mark)
    (hc : c ∈ line) : c ∈ s ∧ c ≠ mark := by
  induction s generalizing line with
  | nil =>
      obtain rfl : line = [] := by simpa using h
      cases hc
  | cons d s ih =>
      rw [List.splitOn_cons_eq_if_modifyHead] at h
      split at h
      · rcases List.mem_cons.mp h with rfl | hmem
        · cases hc
        · exact (ih hmem hc).imp_left (List.mem_cons_of_mem d)
      · next hd =>
        obtain ⟨first, others, hfirst⟩ := List.exists_cons_of_ne_nil (List.splitOn_ne_nil mark s)
        rw [hfirst, List.modifyHead_cons] at h
        rw [hfirst] at ih
        rcases List.mem_cons.mp h with rfl | hmem
        · rcases List.mem_cons.mp hc with rfl | hc
          · exact ⟨List.mem_cons_self, by simpa using hd⟩
          · exact (ih List.mem_cons_self hc).imp_left (List.mem_cons_of_mem d)
        · exact (ih (List.mem_cons_of_mem _ hmem) hc).imp_left (List.mem_cons_of_mem d)

theorem intercalate_concat {mark : Char} {lines : List Text} (h : lines ≠ []) (line : Text) :
    [mark].intercalate (lines ++ [line]) = [mark].intercalate lines ++ mark :: line := by
  induction lines with
  | nil => exact absurd rfl h
  | cons first lines ih =>
      by_cases hlines : lines = []
      · subst hlines
        simp [List.intercalate_cons_cons]
      · rw [List.cons_append, List.intercalate_cons_of_ne_nil (by simp), ih hlines,
          List.intercalate_cons_of_ne_nil hlines]
        simp

end EndpointDocs.Text
