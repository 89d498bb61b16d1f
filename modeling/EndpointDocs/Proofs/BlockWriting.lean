import EndpointDocs.Proofs.CommentLayout

/-!
# Writing a block as a comment

A block that was read from a comment is in a normal form, and a block in this form is read back from
the comment that it is written as, with one line for each line of the summary and for each tag.
-/

namespace EndpointDocs

namespace DocBlock

/-- The lines of the summary, which line feeds divide.  An empty summary has none. -/
def summaryLines (block : DocBlock) : List Text :=
  if block.summary = [] then [] else block.summary.splitOn '\n'

/-- The form of the blocks that are read. -/
structure IsNormal (block : DocBlock) : Prop where
  name_ne_nil : ∀ tag ∈ block.tags, tag.name ≠ []
  name_not_blank : ∀ tag ∈ block.tags, ∀ c ∈ tag.name, isBlank c = false
  trim_content : ∀ tag ∈ block.tags, Text.trim tag.content = tag.content
  content_line : ∀ tag ∈ block.tags, '\n' ∉ tag.content
  trim_summary : Text.trim block.summary = block.summary
  summary_plain : ∀ line ∈ block.summaryLines, startsTag line = false

def tagLine (tag : Tag) : Text :=
  '@' :: (tag.name ++ ' ' :: tag.content)

/-- The lines of a block, those of the summary before those of the tags. -/
def writtenLines (block : DocBlock) : List Text :=
  block.summaryLines ++ block.tags.map tagLine

def written (block : DocBlock) : Text :=
  "/**\n".toList ++
    ((block.writtenLines.flatMap fun line ↦ " * ".toList ++ (line ++ ['\n'])) ++ " */".toList)

/-! ## What is read is normal -/

theorem trim_stripGutter (line : Text) : Text.trim (stripGutter line) = stripGutter line := by
  unfold stripGutter
  split
  · exact Text.trim_trim _
  · exact Text.trim_trim _

theorem trim_of_mem_commentLines {comment line : Text} (h : line ∈ commentLines comment) :
    Text.trim line = line := by
  obtain ⟨whole, -, rfl⟩ := List.mem_map.mp h
  exact trim_stripGutter whole

theorem isPiece_intercalate {mark : Char} {pieces : List Text} (hne : pieces ≠ [])
    (h : ∀ piece ∈ pieces, piece ≠ [] ∧ Text.IsPiece piece piece) :
    [mark].intercalate pieces ≠ [] ∧
      Text.IsPiece ([mark].intercalate pieces) ([mark].intercalate pieces) := by
  induction pieces with
  | nil => exact absurd rfl hne
  | cons piece pieces ih =>
      obtain ⟨⟨hpiece, hends⟩, hpieces⟩ := List.forall_mem_cons.mp h
      by_cases hlast : pieces = []
      · subst hlast
        rw [List.intercalate_singleton]
        exact ⟨hpiece, hends⟩
      · obtain ⟨hrest, hrestEnds⟩ := ih hlast hpieces
        rw [List.intercalate_cons_of_ne_nil hlast]
        refine ⟨by simp [hpiece], List.infix_rfl, ?_, ?_⟩
        · intro c hc
          rw [List.append_assoc, List.head?_append_of_ne_nil _ hpiece] at hc
          exact hends.head_not_blank c hc
        · intro c hc
          rw [List.getLast?_append_of_ne_nil _ hrest] at hc
          exact hrestEnds.last_not_blank c hc

theorem trim_spaced {pieces : List Text} (h : ∀ piece ∈ pieces, Text.trim piece = piece) :
    Text.trim (spaced pieces) = spaced pieces := by
  rw [spaced]
  by_cases hne : (pieces.filter fun piece ↦ !piece.isEmpty) = []
  · rw [hne]
    rfl
  · refine Text.trim_eq_self_iff.mpr (isPiece_intercalate hne ?_).2
    intro piece hpiece
    obtain ⟨hmem, hfull⟩ := List.mem_filter.mp hpiece
    exact ⟨by simpa using hfull, Text.trim_eq_self_iff.mp (h piece hmem)⟩

theorem TagSection.name_ne_nil (part : TagSection) : part.tag.name ≠ [] := by
  obtain ⟨c, rest, hstart, hc⟩ := startsTag_iff.mp part.startsTag_start
  simp [tag, hstart, hc]

theorem TagSection.trim_content {part : TagSection}
    (h : ∀ line ∈ part.more, Text.trim line = line) :
    Text.trim part.tag.content = part.tag.content := by
  apply trim_spaced
  exact List.forall_mem_cons.mpr ⟨Text.trim_trim _, h⟩

/-- The lines of the summary are opening lines of the comment; only empty ones are missing. -/
theorem mem_opening_of_mem_summaryLines {comment line : Text}
    (h : line ∈ (ofComment comment).summaryLines) :
    line ∈ (Outline.ofLines (commentLines comment)).opening := by
  have hsubset := opening_subset_commentLines comment
  rw [ofComment_eq_block_ofLines, summaryLines, Outline.block] at h
  generalize (Outline.ofLines (commentLines comment)).opening = opening at h hsubset
  split at h
  · cases h
  · next hsummary =>
    have hne : opening ≠ [] := by
      rintro rfl
      exact hsummary rfl
    obtain ⟨above, middle, below, hopening, hmiddle, -⟩ :=
      Text.framed_trim (['\n'].intercalate opening)
    rw [List.splitOn_intercalate '\n'
      (fun line hline ↦ newline_not_mem_of_mem_commentLines (hsubset hline)) hne] at hopening
    obtain ⟨whole, hwhole, hpadded⟩ := Text.exists_mem_of_forall₂ hmiddle h
    have hmem : whole ∈ opening := by simp [hopening, hwhole]
    rwa [← hpadded.eq_of_trim_eq_self (trim_of_mem_commentLines (hsubset hmem))]

/-- Whatever is read of a comment has normal form. -/
theorem isNormal_ofComment (comment : Text) : (ofComment comment).IsNormal where
  name_ne_nil tag htag := by
    obtain ⟨part, rfl, -⟩ := exists_section_of_mem_tags htag
    exact part.name_ne_nil
  name_not_blank tag htag c hc := by
    obtain ⟨part, rfl, -⟩ := exists_section_of_mem_tags htag
    simpa using List.mem_takeWhile_imp hc
  trim_content tag htag := by
    obtain ⟨part, rfl, hlines⟩ := exists_section_of_mem_tags htag
    apply part.trim_content
    exact fun line hline ↦ trim_of_mem_commentLines (hlines (List.mem_cons_of_mem _ hline))
  content_line tag htag := newline_not_mem_content htag
  trim_summary := by
    simp only [ofComment_eq_block_ofLines, Outline.block, Text.trim_trim]
  summary_plain line hline :=
    (Outline.ofLines (commentLines comment)).startsTag_opening line
      (mem_opening_of_mem_summaryLines hline)

/-! ## The written block as decorated lines -/

def openingSetting : Decoration :=
  ⟨spaces 0, none, spaces 0, false⟩

def lineSetting : Decoration :=
  ⟨spaces 1, some (spaces 1), spaces 0, false⟩

def closingSetting : Decoration :=
  ⟨spaces 1, none, spaces 0, false⟩

theorem setLines_lineSetting (lines : List Text) :
    setLines false (lines.map (lineSetting, ·) ++ [closingSetting.alone]) =
      (lines.flatMap fun line ↦ " * ".toList ++ (line ++ ['\n'])) ++ [' '] := by
  induction lines with
  | nil => rfl
  | cons line lines ih =>
      have hmore : (lines.map (lineSetting, ·) ++ [closingSetting.alone]).isEmpty = false := by simp
      rw [List.map_cons, List.cons_append, setLines, hmore, ih]
      simp [lineSetting, spaces, Decoration.around, Decoration.ending]

theorem written_eq_delimited (block : DocBlock) :
    block.written = delimited (setLines false
      (openingSetting.alone :: (block.writtenLines.map (lineSetting, ·) ++
        [closingSetting.alone]))) := by
  have hmore :
      (block.writtenLines.map (lineSetting, ·) ++ [closingSetting.alone]).isEmpty = false := by
    simp
  rw [setLines, hmore, setLines_lineSetting]
  simp [written, delimited, openingSetting, spaces, Decoration.alone, Decoration.around,
    Decoration.ending]

/-- A written block is read as its lines, without what the layout puts around them. -/
theorem ofComment_written_eq_ofLines {block : DocBlock}
    (h : ∀ line ∈ block.writtenLines, '\n' ∉ line) :
    ofComment block.written = ofLines (block.writtenLines.map Text.trim) := by
  have hfits : ∀ row ∈ openingSetting.alone :: (block.writtenLines.map (lineSetting, ·) ++
      [closingSetting.alone]), row.1.Fits row.2 := by
    rw [List.forall_mem_cons, List.forall_mem_append, List.forall_mem_map,
      List.forall_mem_singleton]
    refine ⟨openingSetting.fits_nil, fun line hline ↦ ⟨h line hline, ?_⟩, closingSetting.fits_nil⟩
    rintro ⟨⟩
  have htrim : (openingSetting.alone :: (block.writtenLines.map (lineSetting, ·) ++
      [closingSetting.alone])).map (fun row ↦ Text.trim row.2) =
        [[]] ++ (block.writtenLines.map Text.trim ++ [[]]) := by
    simp [Decoration.alone]
  have hempty : ∀ line ∈ ([[]] : List Text), line = [] := by simp
  rw [written_eq_delimited, ofComment_delimited false hfits, htrim]
  exact ofLines_append_of_empty hempty hempty _

/-! ## What is normal is read back -/

/-- Of the line of a tag without content the space at the end is lost, and nothing otherwise. -/
theorem exists_trim_tagLine_eq {tag : Tag} (hname : ∀ c ∈ tag.name, isBlank c = false)
    (hcontent : Text.trim tag.content = tag.content) :
    ∃ rest, Text.trim (tagLine tag) = '@' :: (tag.name ++ rest) ∧
      (∀ c, rest.head? = some c → isBlank c = true) ∧ Text.trim rest = tag.content := by
  by_cases hempty : tag.content = []
  · have hword : ∀ c ∈ '@' :: tag.name, isBlank c = false :=
      List.forall_mem_cons.mpr ⟨rfl, hname⟩
    have hpadded : Text.Padded (tagLine tag) ('@' :: tag.name) :=
      ⟨[], [' '], by simp [tagLine, hempty], by simp, List.forall_mem_singleton.mpr rfl⟩
    refine ⟨[], ?_, by simp, by rw [hempty, Text.trim_nil]⟩
    rw [hpadded.trim_eq, Text.trim_eq_self_of_forall hword, List.append_nil]
  · have hends := Text.trim_eq_self_iff.mp hcontent
    refine ⟨' ' :: tag.content, ?_, ?_, ?_⟩
    · refine Text.trim_eq_self_iff.mpr ⟨List.infix_rfl, ?_, ?_⟩
      · rintro c ⟨⟩
        rfl
      · intro c hc
        refine hends.last_not_blank c ?_
        rw [← hc, tagLine, ← List.cons_append, List.append_cons,
          List.getLast?_append_of_ne_nil _ hempty]
    · rintro c ⟨⟩
      rfl
    · have hspace : ∀ c ∈ [' '], isBlank c = true := List.forall_mem_singleton.mpr rfl
      exact (Text.trim_append_of_blank hspace tag.content).trans hcontent

/-- The line of a tag in normal form is a section with that tag and no further line. -/
theorem exists_section_eq {tag : Tag} (hne : tag.name ≠ [])
    (hname : ∀ c ∈ tag.name, isBlank c = false) (hcontent : Text.trim tag.content = tag.content) :
    ∃ part : TagSection, part.lines = [Text.trim (tagLine tag)] ∧ part.tag = tag := by
  obtain ⟨rest, hline, hrest, htrim⟩ := exists_trim_tagLine_eq hname hcontent
  have hstarts : startsTag ('@' :: (tag.name ++ rest)) = true := by
    obtain ⟨c, name, hcons⟩ := List.exists_cons_of_ne_nil hne
    rw [startsTag_iff, hcons]
    exact ⟨c, name ++ rest, rfl, hname c (by simp [hcons])⟩
  have hsplit := (Text.splitBlank_eq _).symm.trans (Text.splitBlank_word hname hrest)
  obtain ⟨htake, hdrop⟩ := Prod.mk.inj hsplit
  rw [hline]
  refine ⟨⟨'@' :: (tag.name ++ rest), [], hstarts, by simp⟩, rfl, ?_⟩
  rw [TagSection.tag, List.tail_cons, htake, hdrop, htrim, spaced_singleton]

theorem exists_sections_eq {tags : List Tag} (hne : ∀ tag ∈ tags, tag.name ≠ [])
    (hname : ∀ tag ∈ tags, ∀ c ∈ tag.name, isBlank c = false)
    (hcontent : ∀ tag ∈ tags, Text.trim tag.content = tag.content) :
    ∃ sections : List TagSection,
      sections.flatMap TagSection.lines = (tags.map tagLine).map Text.trim ∧
        sections.map TagSection.tag = tags := by
  induction tags with
  | nil => exact ⟨[], rfl, rfl⟩
  | cons tag tags ih =>
      rw [List.forall_mem_cons] at hne hname hcontent
      obtain ⟨part, hline, htag⟩ := exists_section_eq hne.1 hname.1 hcontent.1
      obtain ⟨sections, hlines, htags⟩ := ih hne.2 hname.2 hcontent.2
      refine ⟨part :: sections, ?_, ?_⟩
      · rw [List.flatMap_cons, hline, hlines]
        rfl
      · rw [List.map_cons, htag, htags]

theorem IsNormal.newline_not_mem {block : DocBlock} (h : block.IsNormal) :
    ∀ line ∈ block.writtenLines, '\n' ∉ line := by
  intro line hline
  rcases List.mem_append.mp hline with hline | hline
  · unfold summaryLines at hline
    split at hline
    · cases hline
    · exact fun hmem ↦ (Text.mem_of_mem_splitOn hline hmem).2 rfl
  · obtain ⟨tag, htag, rfl⟩ := List.mem_map.mp hline
    have hname : '\n' ∉ tag.name := fun hmem ↦ by cases h.name_not_blank tag htag _ hmem
    simp [tagLine, hname, h.content_line tag htag]

/-- A normal block is read back from its text if the lines of its summary are trimmed. -/
theorem IsNormal.ofComment_written_eq {block : DocBlock} (h : block.IsNormal)
    (hlines : ∀ line ∈ block.summaryLines, Text.trim line = line) :
    ofComment block.written = block := by
  obtain ⟨sections, hsections, htags⟩ :=
    exists_sections_eq h.name_ne_nil h.name_not_blank h.trim_content
  have hopening : block.summaryLines.map Text.trim = block.summaryLines :=
    (List.map_congr_left hlines).trans (List.map_id _)
  have hsummary : ['\n'].intercalate block.summaryLines = block.summary := by
    unfold summaryLines
    split
    · next hempty => rw [hempty]; rfl
    · exact List.intercalate_splitOn '\n'
  rw [ofComment_written_eq_ofLines h.newline_not_mem, writtenLines, List.map_append, hopening,
    ← hsections]
  rw [show block.summaryLines ++ sections.flatMap TagSection.lines =
    Outline.lines ⟨block.summaryLines, sections, h.summary_plain⟩ from rfl, ofLines_eq_block,
    Outline.block, htags, hsummary, h.trim_summary]

/-- A block that was read is in normal form and is read back from what it is written as, and so is
every block in normal form with no blanks around the lines of its summary. -/
theorem isNormal_and_ofComment_written :
    (∀ comment : Text, (ofComment comment).IsNormal ∧
      ofComment (ofComment comment).written = ofComment comment) ∧
      ∀ block : DocBlock, block.IsNormal →
        (∀ line ∈ block.summaryLines, Text.trim line = line) → ofComment block.written = block := by
  refine ⟨fun comment ↦ ?_, fun block hnormal hlines ↦ hnormal.ofComment_written_eq hlines⟩
  have hnormal := isNormal_ofComment comment
  refine ⟨hnormal, hnormal.ofComment_written_eq fun line hline ↦ ?_⟩
  exact trim_of_mem_commentLines
    (opening_subset_commentLines comment (mem_opening_of_mem_summaryLines hline))

/-! ## A block whose lines look like something else -/

def draftBlock : DocBlock :=
  ⟨"* Drafts /** only\n\n@ home".toList,
    [⟨"bodyParam".toList, "title string @name */".toList⟩, ⟨"@*".toList, []⟩]⟩

/-- A block with the marks of comments and tags in places where they count for nothing. -/
theorem isNormal_and_ofComment_written_draftBlock :
    draftBlock.IsNormal ∧ (∀ line ∈ draftBlock.summaryLines, Text.trim line = line) ∧
      ofComment draftBlock.written = draftBlock := by
  have hnames : ∀ tag ∈ draftBlock.tags, Text.nonBlanks tag.name = tag.name := by decide +kernel
  have hwords : ∀ tag ∈ draftBlock.tags, ∀ c ∈ tag.name, isBlank c = false :=
    fun tag htag ↦ Text.nonBlanks_eq_self_iff.mp (hnames tag htag)
  have hnormal : draftBlock.IsNormal := by
    refine ⟨?_, hwords, ?_, ?_, ?_, ?_⟩ <;> decide +kernel
  have hlines : ∀ line ∈ draftBlock.summaryLines, Text.trim line = line := by decide +kernel
  exact ⟨hnormal, hlines, isNormal_and_ofComment_written.2 draftBlock hnormal hlines⟩

end DocBlock

end EndpointDocs
