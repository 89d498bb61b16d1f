import EndpointDocs.Proofs.CommentOutline
import EndpointDocs.Proofs.LineFrame
import EndpointDocs.Proofs.Occurrence

/-!
# The layout of a comment

What a comment says does not depend on how it is set.  The delimiters, the stars in front of the
lines, the blanks around them, the way lines end and blank lines at both ends are all taken away
before a line is read, so a block is the same with any choice of them and with none.
-/

namespace EndpointDocs

namespace DocBlock

/-! ## Empty lines at the ends -/

theorem ofLines_nil_cons (lines : List Text) : ofLines ([] :: lines) = ofLines lines := by
  have hplain : startsTag [] = false := rfl
  rw [← Outline.lines_ofLines ([] :: lines), ofLines_eq_block]
  conv_rhs => rw [← Outline.lines_ofLines lines, ofLines_eq_block]
  rw [Outline.block, Outline.block, Outline.sections_ofLines_cons hplain,
    Outline.opening_ofLines_cons hplain]
  congr 1
  cases (Outline.ofLines lines).opening with
  | nil => rfl
  | cons first opening =>
      have hnewline : ∀ c ∈ ['\n'], isBlank c = true := List.forall_mem_singleton.mpr rfl
      rw [List.intercalate_cons_cons]
      exact Text.trim_append_of_blank hnewline _

theorem finish_addLine_nil (draft : Draft) : (draft.addLine []).finish = draft.finish := by
  obtain ⟨summary, tags⟩ := draft
  cases tags with
  | cons tag tags => rfl
  | nil =>
      change (⟨Text.trim (['\n'].intercalate ([] :: summary).reverse), []⟩ : DocBlock) =
        ⟨Text.trim (['\n'].intercalate summary.reverse), []⟩
      congr 1
      rw [List.reverse_cons]
      by_cases h : summary.reverse = []
      · rw [h]
        rfl
      · rw [Text.intercalate_concat h]
        exact Text.Padded.trim_eq (.of_back (List.forall_mem_singleton.mpr rfl) _)

/-- Empty lines above and below make no difference. -/
theorem ofLines_append_of_empty {above below : List Text} (habove : ∀ line ∈ above, line = [])
    (hbelow : ∀ line ∈ below, line = []) (lines : List Text) :
    ofLines (above ++ (lines ++ below)) = ofLines lines := by
  have hfront : ∀ lines, ofLines (above ++ lines) = ofLines lines := by
    intro lines
    induction above with
    | nil => rfl
    | cons line above ih =>
        obtain ⟨rfl, hrest⟩ := List.forall_mem_cons.mp habove
        rw [List.cons_append, ofLines_nil_cons, ih hrest]
  have hback : ∀ draft : Draft, (below.foldl Draft.addLine draft).finish = draft.finish := by
    intro draft
    induction below generalizing draft with
    | nil => rfl
    | cons line below ih =>
        obtain ⟨rfl, hrest⟩ := List.forall_mem_cons.mp hbelow
        rw [List.foldl_cons, ih hrest, finish_addLine_nil]
  rw [hfront, ofLines, List.foldl_append, hback, ofLines]

/-! ## Lines in a frame of blanks -/

theorem stripGutter_of_padded {line core : Text} (h : Text.Padded line core) :
    stripGutter line = stripGutter core := by
  rw [stripGutter, stripGutter, h.trim_eq]

theorem stripGutter_of_blank {line : Text} (h : ∀ c ∈ line, isBlank c = true) :
    stripGutter line = [] := by
  have hpadded : Text.Padded line [] := ⟨line, [], by simp, h, by simp⟩
  exact stripGutter_of_padded hpadded

/-- Blanks around lines and blank lines above and below make no difference to the block. -/
theorem ofLines_of_framed {lines cores : List Text} (h : Text.Framed lines cores) :
    ofLines (lines.map stripGutter) = ofLines (cores.map stripGutter) := by
  obtain ⟨above, middle, below, rfl, hmiddle, houter⟩ := h
  have hcores : middle.map stripGutter = cores.map stripGutter := by
    induction hmiddle with
    | nil => rfl
    | cons hline _ ih => rw [List.map_cons, List.map_cons, stripGutter_of_padded hline, ih]
  have hempty : ∀ line ∈ (above ++ below).map stripGutter, line = [] := by
    intro line hline
    obtain ⟨whole, hwhole, rfl⟩ := List.mem_map.mp hline
    exact stripGutter_of_blank (houter whole hwhole)
  rw [List.map_append, List.forall_mem_append] at hempty
  rw [List.map_append, List.map_append, hcores, ofLines_append_of_empty hempty.1 hempty.2]

theorem ofComment_eq_ofLines (comment : Text) :
    ofComment comment = ofLines (((commentBody comment).splitOn '\n').map stripGutter) := by
  rw [ofLines_of_framed (Text.framed_lines (commentBody comment))]
  rfl

/-- A comment without delimiters is read line by line. -/
theorem ofComment_of_bare {comment : Text} (hstart : ¬ "/**".toList <+: Text.trim comment)
    (hend : ¬ "*/".toList <:+ Text.trim comment) :
    ofComment comment = ofLines ((comment.splitOn '\n').map stripGutter) := by
  have hbody : commentBody comment = Text.trim comment := by
    rw [commentBody, Text.isPrefixOf?_eq_none_iff.mpr hstart, Option.getD_none,
      Text.isSuffixOf?_eq_none_iff.mpr hend, Option.getD_none]
  rw [ofComment_eq_ofLines, hbody, ofLines_of_framed (Text.framed_trim comment)]

/-! ## Decorated lines -/

abbrev Spacing :=
  { s : Text // ∀ c ∈ s, isBlank c = true ∧ c ≠ '\n' }

def spaces (n : Nat) : Spacing :=
  ⟨List.replicate n ' ', fun c hc ↦ by
    obtain rfl := List.eq_of_mem_replicate hc
    exact ⟨rfl, by decide⟩⟩

/-- What a line is set with: the blanks in front of it, a star behind them with blanks of its own,
the blanks behind the line, and whether a carriage return stands before the line feed. -/
structure Decoration where
  lead : Spacing
  gutter : Option Spacing
  trail : Spacing
  returns : Bool

namespace Decoration

/-- A line with its decoration, up to the line feed. -/
def around (deco : Decoration) (line : Text) : Text :=
  deco.lead.1 ++ ((deco.gutter.elim [] fun blanks ↦ '*' :: blanks.1) ++ (line ++ deco.trail.1))

def alone (deco : Decoration) : Decoration × Text :=
  (deco, [])

def ending (deco : Decoration) : Text :=
  if deco.returns then ['\r', '\n'] else ['\n']

end Decoration

/-- Lines with their decorations and endings, the last one without its ending unless `closed`. -/
def setLines (closed : Bool) : List (Decoration × Text) → Text
  | [] => []
  | (deco, line) :: others =>
    deco.around line ++
      ((if closed || !others.isEmpty then deco.ending else []) ++ setLines closed others)

def delimited (body : Text) : Text :=
  "/**".toList ++ (body ++ "*/".toList)

theorem commentBody_delimited (body : Text) : commentBody (delimited body) = body := by
  have htrim : Text.trim (delimited body) = delimited body := by
    rw [Text.trim_eq_self_iff]
    refine ⟨List.infix_rfl, ?_, ?_⟩
    · rintro c ⟨⟩
      rfl
    · intro c hc
      rw [delimited, ← List.append_assoc, List.getLast?_append_of_ne_nil _ (by decide)] at hc
      cases hc
      rfl
  rw [commentBody, htrim, delimited, Text.isPrefixOf?_append, Option.getD_some,
    Text.isSuffixOf?_append, Option.getD_some]

theorem stripGutter_of_head {line : Text} (h : (Text.trim line).head? ≠ some '*') :
    stripGutter line = Text.trim line := by
  unfold stripGutter
  split
  · next rest htrim => simp [htrim] at h
  · rfl

theorem stripGutter_star {front : Text} (h : ∀ c ∈ front, isBlank c = true) (rest : Text) :
    stripGutter (front ++ '*' :: rest) = Text.trim rest := by
  have hstar : Text.nonBlanks ('*' :: rest) ≠ [] := by
    rw [ne_eq, Text.nonBlanks_eq_nil_iff]
    intro hblank
    exact absurd (hblank '*' List.mem_cons_self) (by decide)
  have htrim : Text.trim (front ++ '*' :: rest) = '*' :: Text.trimEnd rest := by
    rw [Text.trim_append_of_blank h, Text.trim]
    change Text.trimEnd ('*' :: rest) = _
    rw [Text.trimEnd_cons, if_neg hstar]
  obtain ⟨back, hrest, hback⟩ := Text.eq_append_trimEnd rest
  rw [stripGutter, htrim]
  conv_rhs => rw [hrest]
  exact (Text.Padded.trim_eq (.of_back hback _)).symm

/-- Whether a line can stand in a decoration: it does not begin with a star unless there is one in
front of it. -/
def Decoration.Fits (deco : Decoration) (line : Text) : Prop :=
  '\n' ∉ line ∧ (deco.gutter = none → (Text.trim line).head? ≠ some '*')

theorem Decoration.fits_nil (deco : Decoration) : deco.Fits [] :=
  ⟨by simp, fun _ ↦ by simp⟩

/-- What is read of a decorated line is the line, trimmed. -/
theorem Decoration.stripGutter_around {deco : Decoration} {line : Text} (h : deco.Fits line)
    {back : Text} (hback : ∀ c ∈ back, isBlank c = true) :
    stripGutter (deco.around line ++ back) = Text.trim line := by
  obtain ⟨⟨lead, hlead⟩, gutter, ⟨trail, htrail⟩, returns⟩ := deco
  have htail : ∀ c ∈ trail ++ back, isBlank c = true :=
    List.forall_mem_append.mpr ⟨fun c hc ↦ (htrail c hc).1, hback⟩
  cases gutter with
  | none =>
      have hpadded : Text.Padded (lead ++ (line ++ trail) ++ back) line :=
        ⟨lead, trail ++ back, by simp, fun c hc ↦ (hlead c hc).1, htail⟩
      exact (stripGutter_of_padded hpadded).trans (stripGutter_of_head (h.2 rfl))
  | some blanks =>
      obtain ⟨blanks, hblanks⟩ := blanks
      have hpadded : Text.Padded (blanks ++ (line ++ (trail ++ back))) line :=
        ⟨blanks, trail ++ back, rfl, fun c hc ↦ (hblanks c hc).1, htail⟩
      rw [← hpadded.trim_eq, ← stripGutter_star fun c hc ↦ (hlead c hc).1]
      simp [around]

theorem Decoration.newline_not_mem_around {deco : Decoration} {line : Text} (h : '\n' ∉ line) :
    '\n' ∉ deco.around line := by
  obtain ⟨⟨lead, hlead⟩, gutter, ⟨trail, htrail⟩, returns⟩ := deco
  have hlead' : '\n' ∉ lead := fun hmem ↦ (hlead _ hmem).2 rfl
  have htrail' : '\n' ∉ trail := fun hmem ↦ (htrail _ hmem).2 rfl
  cases gutter with
  | none => simp [around, hlead', h, htrail']
  | some blanks =>
      have hblanks : '\n' ∉ blanks.1 := fun hmem ↦ (blanks.2 _ hmem).2 rfl
      simp [around, hlead', hblanks, h, htrail']

theorem Decoration.exists_ending_eq (deco : Decoration) :
    ∃ back, deco.ending = back ++ ['\n'] ∧ '\n' ∉ back ∧ ∀ c ∈ back, isBlank c = true := by
  unfold ending
  split
  · exact ⟨['\r'], rfl, by decide, List.forall_mem_singleton.mpr rfl⟩
  · exact ⟨[], rfl, by simp, by simp⟩

theorem Decoration.map_stripGutter_ending {deco : Decoration} {line : Text} (h : deco.Fits line)
    (rest : Text) :
    ((deco.around line ++ (deco.ending ++ rest)).splitOn '\n').map stripGutter =
      Text.trim line :: (rest.splitOn '\n').map stripGutter := by
  obtain ⟨back, hending, hnewline, hback⟩ := deco.exists_ending_eq
  have hline : '\n' ∉ deco.around line ++ back := by
    simp [newline_not_mem_around h.1, hnewline]
  rw [hending, List.append_assoc, List.singleton_append, ← List.append_assoc,
    List.splitOn_append_cons_self_of_not_mem hline, List.map_cons, stripGutter_around h hback]

/-- Line by line, what is read of decorated lines is the lines, and perhaps empty ones below. -/
theorem exists_map_stripGutter_setLines (closed : Bool) {lines : List (Decoration × Text)}
    (h : ∀ row ∈ lines, row.1.Fits row.2) :
    ∃ below : List Text, (∀ line ∈ below, line = []) ∧
      ((setLines closed lines).splitOn '\n').map stripGutter =
        (lines.map fun row ↦ Text.trim row.2) ++ below := by
  induction lines with
  | nil => exact ⟨[[]], by simp, rfl⟩
  | cons row others ih =>
      obtain ⟨deco, line⟩ := row
      obtain ⟨hfits, hothers⟩ := List.forall_mem_cons.mp h
      obtain ⟨below, hbelow, hlines⟩ := ih hothers
      rw [setLines]
      split
      · refine ⟨below, hbelow, ?_⟩
        rw [deco.map_stripGutter_ending hfits, hlines]
        rfl
      · next hopen =>
        -- The last line has nothing behind it.
        obtain ⟨-, rfl⟩ : closed = false ∧ others = [] := by simpa using hopen
        have hnone : ∀ c ∈ ([] : Text), isBlank c = true := by simp
        have hline := deco.stripGutter_around hfits hnone
        refine ⟨[], by simp, ?_⟩
        rw [List.append_nil] at hline
        rw [setLines, List.append_nil, List.append_nil,
          List.splitOn_eq_singleton (Decoration.newline_not_mem_around hfits.1),
          List.map_singleton, hline]
        rfl

/-- A comment in delimiters is read as the lines that are set in it. -/
theorem ofComment_delimited (closed : Bool) {lines : List (Decoration × Text)}
    (h : ∀ row ∈ lines, row.1.Fits row.2) :
    ofComment (delimited (setLines closed lines)) =
      ofLines (lines.map fun row ↦ Text.trim row.2) := by
  obtain ⟨below, hbelow, hlines⟩ := exists_map_stripGutter_setLines closed h
  rw [ofComment_eq_ofLines, commentBody_delimited, hlines]
  have habove : ∀ line ∈ ([] : List Text), line = [] := by simp
  exact ofLines_append_of_empty habove hbelow _

theorem ofComment_intercalate {lines : List Text} (hline : ∀ line ∈ lines, '\n' ∉ line)
    (hstar : ∀ line ∈ lines, (Text.trim line).head? ≠ some '*')
    (hstart : ¬ "/**".toList <+: Text.trim (['\n'].intercalate lines))
    (hend : ¬ "*/".toList <:+ Text.trim (['\n'].intercalate lines)) :
    ofComment (['\n'].intercalate lines) = ofLines (lines.map Text.trim) := by
  rw [ofComment_of_bare hstart hend]
  by_cases hne : lines = []
  · subst hne
    exact ofLines_nil_cons []
  · rw [List.splitOn_intercalate '\n' hline hne]
    apply congrArg ofLines
    exact List.map_congr_left fun line hmem ↦ stripGutter_of_head (hstar line hmem)

/-- Lines of text that are joined as they are give the same block as between delimiters, each in a
decoration of its own, with lines of decoration alone above and below. -/
theorem ofComment_delimited_eq_bare (above below : List Decoration)
    (lines : List (Decoration × Text)) (closed : Bool)
    (hline : ∀ row ∈ lines, '\n' ∉ row.2)
    (hstar : ∀ row ∈ lines, (Text.trim row.2).head? ≠ some '*')
    (hstart : ¬ "/**".toList <+: Text.trim (['\n'].intercalate (lines.map Prod.snd)))
    (hend : ¬ "*/".toList <:+ Text.trim (['\n'].intercalate (lines.map Prod.snd))) :
    ofComment (delimited (setLines closed
        (above.map Decoration.alone ++ (lines ++ below.map Decoration.alone)))) =
      ofComment (['\n'].intercalate (lines.map Prod.snd)) := by
  have hempty : ∀ decos : List Decoration, ∀ row ∈ decos.map Decoration.alone, row.1.Fits row.2 :=
    fun decos ↦ List.forall_mem_map.mpr fun deco _ ↦ deco.fits_nil
  have hfits : ∀ row ∈ above.map Decoration.alone ++ (lines ++ below.map Decoration.alone),
      row.1.Fits row.2 := by
    rw [List.forall_mem_append, List.forall_mem_append]
    exact ⟨hempty above, fun row hrow ↦ ⟨hline row hrow, fun _ ↦ hstar row hrow⟩, hempty below⟩
  have hblank : ∀ decos : List Decoration,
      ∀ line ∈ (decos.map Decoration.alone).map fun row ↦ Text.trim row.2, line = [] := by
    intro decos line hmem
    obtain ⟨row, hrow, rfl⟩ := List.mem_map.mp hmem
    obtain ⟨deco, -, rfl⟩ := List.mem_map.mp hrow
    exact Text.trim_nil
  have hbare := ofComment_intercalate (List.forall_mem_map.mpr hline)
    (List.forall_mem_map.mpr hstar) hstart hend
  rw [ofComment_delimited closed hfits, hbare, List.map_append, List.map_append,
    ofLines_append_of_empty (hblank above) (hblank below), List.map_map]
  rfl

/-! ## A comment with a decoration on every line -/

def postLines : List (Decoration × Text) :=
  let tab : Spacing := ⟨['\t'], List.forall_mem_singleton.mpr ⟨rfl, by decide⟩⟩
  [(⟨spaces 1, none, tab, true⟩, "Create a post.".toList),
    (⟨tab, some (spaces 0), spaces 0, false⟩, []),
    (⟨spaces 0, some (spaces 2), spaces 1, false⟩, "@bodyParam title string".toList)]

def starLine : Decoration :=
  ⟨spaces 1, some (spaces 0), spaces 0, false⟩

theorem ofComment_delimited_eq_bare_postLines :
    (∀ row ∈ postLines, '\n' ∉ row.2) ∧
      (∀ row ∈ postLines, (Text.trim row.2).head? ≠ some '*') ∧
      ¬ "/**".toList <+: Text.trim (['\n'].intercalate (postLines.map Prod.snd)) ∧
      ¬ "*/".toList <:+ Text.trim (['\n'].intercalate (postLines.map Prod.snd)) ∧
      ofComment (delimited (setLines false
          ([starLine].map Decoration.alone ++ (postLines ++ [starLine].map Decoration.alone)))) =
        ofComment (['\n'].intercalate (postLines.map Prod.snd)) := by
  have hline : ∀ row ∈ postLines, '\n' ∉ row.2 := by decide +kernel
  have hstar : ∀ row ∈ postLines, (Text.trim row.2).head? ≠ some '*' := by decide +kernel
  have hstart : ¬ "/**".toList <+: Text.trim (['\n'].intercalate (postLines.map Prod.snd)) := by
    decide +kernel
  have hend : ¬ "*/".toList <:+ Text.trim (['\n'].intercalate (postLines.map Prod.snd)) := by
    decide +kernel
  exact ⟨hline, hstar, hstart, hend,
    ofComment_delimited_eq_bare [starLine] [starLine] postLines false hline hstar hstart hend⟩

end DocBlock

end EndpointDocs
