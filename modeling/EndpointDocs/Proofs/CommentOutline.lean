import EndpointDocs.DocBlock
import EndpointDocs.Proofs.LineFrame

/-!
# The outline of a comment

The lines of a comment fall apart at those that start a tag, and in one way only.  Reading the lines
one by one, with the latest tag still open, comes to the same as taking each of these parts on its
own: the opening lines are the summary, and every other part is a tag.
-/

namespace EndpointDocs

namespace DocBlock

/-- Whether a line begins with `@` directly followed by a character that is not blank. -/
def startsTag : Text → Bool
  | '@' :: c :: _ => !isBlank c
  | _ => false

/-- A line that starts a tag, and the lines after it that start none. -/
@[ext] structure TagSection where
  start : Text
  more : List Text
  startsTag_start : startsTag start = true
  startsTag_more : ∀ line ∈ more, startsTag line = false

/-- Lines that are taken apart where tags start: the opening, and one section for each tag. -/
@[ext] structure Outline where
  opening : List Text
  sections : List TagSection
  startsTag_opening : ∀ line ∈ opening, startsTag line = false

/-- The pieces that are not empty, with a space between any two. -/
def spaced (pieces : List Text) : Text :=
  [' '].intercalate (pieces.filter fun piece ↦ !piece.isEmpty)

namespace TagSection

def lines (part : TagSection) : List Text :=
  part.start :: part.more

/-- The tag of a section: the name is what stands without a blank behind the `@`, and the content is
what is left of that line and all further lines. -/
def tag (part : TagSection) : Tag where
  name := part.start.tail.takeWhile fun c ↦ !isBlank c
  content := spaced (Text.trim (part.start.tail.dropWhile fun c ↦ !isBlank c) :: part.more)

end TagSection

namespace Outline

def lines (outline : Outline) : List Text :=
  outline.opening ++ outline.sections.flatMap TagSection.lines

/-- The block with the opening as its summary and a tag for each section. -/
def block (outline : Outline) : DocBlock where
  summary := Text.trim (['\n'].intercalate outline.opening)
  tags := outline.sections.map TagSection.tag

def ofLines : List Text → Outline
  | [] => ⟨[], [], by simp⟩
  | line :: lines =>
    let outline := ofLines lines
    if h : startsTag line = true then
      ⟨[], ⟨line, outline.opening, h, outline.startsTag_opening⟩ :: outline.sections, by simp⟩
    else ⟨line :: outline.opening, outline.sections, by simpa [h] using outline.startsTag_opening⟩

/-! ## Lines and their outline -/

variable {line : Text} {lines : List Text}

theorem ofLines_cons_of_startsTag (h : startsTag line = true) :
    ofLines (line :: lines) =
      ⟨[], ⟨line, (ofLines lines).opening, h, (ofLines lines).startsTag_opening⟩ ::
        (ofLines lines).sections, by simp⟩ := by
  rw [ofLines, dif_pos h]

theorem opening_ofLines_cons (h : startsTag line = false) :
    (ofLines (line :: lines)).opening = line :: (ofLines lines).opening := by
  rw [ofLines, dif_neg (by simp [h])]

theorem sections_ofLines_cons (h : startsTag line = false) :
    (ofLines (line :: lines)).sections = (ofLines lines).sections := by
  rw [ofLines, dif_neg (by simp [h])]

/-- Taking lines apart and putting them together again are inverse to each other. -/
theorem lines_ofLines (lines : List Text) : (ofLines lines).lines = lines := by
  induction lines with
  | nil => rfl
  | cons line rest ih =>
      cases h : startsTag line with
      | true =>
          rw [ofLines_cons_of_startsTag h]
          exact congrArg (line :: ·) ih
      | false =>
          rw [Outline.lines, opening_ofLines_cons h, sections_ofLines_cons h]
          exact congrArg (line :: ·) ih

theorem opening_ofLines_append {front : List Text} (h : ∀ line ∈ front, startsTag line = false)
    (lines : List Text) :
    (ofLines (front ++ lines)).opening = front ++ (ofLines lines).opening := by
  induction front with
  | nil => rfl
  | cons line front ih =>
      obtain ⟨hline, hfront⟩ := List.forall_mem_cons.mp h
      rw [List.cons_append, opening_ofLines_cons hline, ih hfront, List.cons_append]

theorem sections_ofLines_append {front : List Text} (h : ∀ line ∈ front, startsTag line = false)
    (lines : List Text) : (ofLines (front ++ lines)).sections = (ofLines lines).sections := by
  induction front with
  | nil => rfl
  | cons line front ih =>
      obtain ⟨hline, hfront⟩ := List.forall_mem_cons.mp h
      rw [List.cons_append, sections_ofLines_cons hline, ih hfront]

theorem ofLines_flatMap_lines (sections : List TagSection) :
    ofLines (sections.flatMap TagSection.lines) = ⟨[], sections, by simp⟩ := by
  induction sections with
  | nil => rfl
  | cons part sections ih =>
      rw [List.flatMap_cons, TagSection.lines, List.cons_append,
        ofLines_cons_of_startsTag part.startsTag_start]
      have hopening := opening_ofLines_append part.startsTag_more
        (sections.flatMap TagSection.lines)
      have hsections := sections_ofLines_append part.startsTag_more
        (sections.flatMap TagSection.lines)
      rw [ih] at hopening hsections
      apply Outline.ext
      · rfl
      · refine congrArg₂ List.cons (TagSection.ext rfl ?_) hsections
        exact hopening.trans (List.append_nil _)

theorem ofLines_lines (outline : Outline) : ofLines outline.lines = outline := by
  apply Outline.ext
  · rw [lines, opening_ofLines_append outline.startsTag_opening, ofLines_flatMap_lines,
      List.append_nil]
  · rw [lines, sections_ofLines_append outline.startsTag_opening, ofLines_flatMap_lines]

end Outline

/-! ## Reading line by line -/

theorem startsTag_iff {line : Text} :
    startsTag line = true ↔ ∃ c rest, line = '@' :: c :: rest ∧ isBlank c = false := by
  constructor
  · intro h
    unfold startsTag at h
    split at h
    · next c rest => exact ⟨c, rest, rfl, by simpa using h⟩
    · cases h
  · rintro ⟨c, rest, rfl, hc⟩
    simp [startsTag, hc]

theorem tagStart?_eq_ite (line : Text) :
    tagStart? line =
      if startsTag line then
        some ⟨line.tail.takeWhile fun c ↦ !isBlank c,
          Text.trim (line.tail.dropWhile fun c ↦ !isBlank c)⟩
      else none := by
  unfold tagStart? startsTag
  split
  · next rest =>
    rw [Text.splitBlank_eq]
    cases rest with
    | nil => rfl
    | cons c rest => cases hc : isBlank c <;> simp [hc]
  · next hother =>
    split
    · next c rest => exact absurd rfl (hother _)
    · rfl

theorem spaced_cons_nil (pieces : List Text) : spaced ([] :: pieces) = spaced pieces := rfl

theorem spaced_singleton (piece : Text) : spaced [piece] = piece := by
  cases piece with
  | nil => rfl
  | cons c piece => simp [spaced]

theorem spaced_append_cons {piece next : Text} (hpiece : piece ≠ []) (hnext : next ≠ [])
    (pieces : List Text) :
    spaced ((piece ++ ' ' :: next) :: pieces) = spaced (piece :: next :: pieces) := by
  have hjoined : piece ++ ' ' :: next ≠ [] := by simp
  simp only [spaced, List.filter_cons, List.isEmpty_eq_false_iff.mpr hpiece,
    List.isEmpty_eq_false_iff.mpr hnext, List.isEmpty_eq_false_iff.mpr hjoined, Bool.not_false,
    if_true]
  cases pieces.filter fun piece ↦ !piece.isEmpty <;> simp [List.intercalate_cons_cons]

theorem foldl_continueTag (lines : List Text) (tag : Tag) :
    lines.foldl continueTag tag = ⟨tag.name, spaced (tag.content :: lines)⟩ := by
  induction lines generalizing tag with
  | nil => rw [spaced_singleton, List.foldl_nil]
  | cons line lines ih =>
      rw [List.foldl_cons, ih, continueTag]
      by_cases hline : line = []
      · subst hline
        rfl
      · rw [if_neg (by simpa using hline)]
        by_cases hcontent : tag.content = []
        · rw [if_pos (by simpa using hcontent), hcontent, spaced_cons_nil]
        · rw [if_neg (by simpa using hcontent), spaced_append_cons hcontent hline]

theorem addLine_of_startsTag {line : Text} (h : startsTag line = true) (draft : Draft) :
    draft.addLine line =
      ⟨draft.summary, ⟨line.tail.takeWhile fun c ↦ !isBlank c,
        Text.trim (line.tail.dropWhile fun c ↦ !isBlank c)⟩ :: draft.tags⟩ := by
  rw [Draft.addLine, tagStart?_eq_ite, if_pos h]

theorem tagStart?_eq_none {line : Text} (h : startsTag line = false) : tagStart? line = none := by
  rw [tagStart?_eq_ite, h]
  rfl

theorem foldl_addLine_summary {lines : List Text} (h : ∀ line ∈ lines, startsTag line = false)
    (summary : List Text) :
    lines.foldl Draft.addLine ⟨summary, []⟩ = ⟨lines.reverse ++ summary, []⟩ := by
  induction lines generalizing summary with
  | nil => rfl
  | cons line lines ih =>
      obtain ⟨hline, hlines⟩ := List.forall_mem_cons.mp h
      rw [List.foldl_cons, Draft.addLine, tagStart?_eq_none hline]
      rw [ih hlines, List.reverse_cons, List.append_assoc, List.singleton_append]

theorem foldl_addLine_latest {lines : List Text} (h : ∀ line ∈ lines, startsTag line = false)
    (summary : List Text) (tag : Tag) (tags : List Tag) :
    lines.foldl Draft.addLine ⟨summary, tag :: tags⟩ =
      ⟨summary, lines.foldl continueTag tag :: tags⟩ := by
  induction lines generalizing tag with
  | nil => rfl
  | cons line lines ih =>
      obtain ⟨hline, hlines⟩ := List.forall_mem_cons.mp h
      rw [List.foldl_cons, Draft.addLine, tagStart?_eq_none hline]
      exact ih hlines _

/-- The lines of a section add its tag to what has been read. -/
theorem foldl_addLine_section (part : TagSection) (draft : Draft) :
    part.lines.foldl Draft.addLine draft = ⟨draft.summary, part.tag :: draft.tags⟩ := by
  rw [TagSection.lines, List.foldl_cons, addLine_of_startsTag part.startsTag_start,
    foldl_addLine_latest part.startsTag_more, foldl_continueTag, TagSection.tag]

theorem foldl_addLine_sections (sections : List TagSection) (draft : Draft) :
    (sections.flatMap TagSection.lines).foldl Draft.addLine draft =
      ⟨draft.summary, (sections.map TagSection.tag).reverse ++ draft.tags⟩ := by
  induction sections generalizing draft with
  | nil => rfl
  | cons part sections ih =>
      rw [List.flatMap_cons, List.foldl_append, foldl_addLine_section, ih]
      simp

def ofLines (lines : List Text) : DocBlock :=
  (lines.foldl Draft.addLine ⟨[], []⟩).finish

/-- Reading the lines of an outline gives its block, section by section. -/
theorem ofLines_eq_block (outline : Outline) : ofLines outline.lines = outline.block := by
  rw [ofLines, Outline.lines, List.foldl_append, foldl_addLine_summary outline.startsTag_opening,
    foldl_addLine_sections, Draft.finish, Outline.block]
  simp

/-! ## Nothing is lost -/

theorem nonBlanks_intercalate {mark : Char} (h : isBlank mark = true) (pieces : List Text) :
    Text.nonBlanks ([mark].intercalate pieces) = pieces.flatMap Text.nonBlanks := by
  induction pieces with
  | nil => rfl
  | cons piece pieces ih =>
      by_cases hne : pieces = []
      · subst hne
        simp [List.intercalate_singleton]
      · have hmark : Text.nonBlanks [mark] = [] := Text.nonBlanks_eq_nil_iff.mpr (by simpa using h)
        rw [List.intercalate_cons_of_ne_nil hne, Text.nonBlanks_append, Text.nonBlanks_append, ih,
          hmark, List.append_nil, List.flatMap_cons]

theorem nonBlanks_spaced (pieces : List Text) :
    Text.nonBlanks (spaced pieces) = pieces.flatMap Text.nonBlanks := by
  rw [spaced, nonBlanks_intercalate rfl]
  induction pieces with
  | nil => rfl
  | cons piece pieces ih => cases piece <;> simp [ih]

/-- What a tag says: its name behind an `@`, and its content but for the blanks. -/
def tagText (tag : Tag) : Text :=
  '@' :: (tag.name ++ Text.nonBlanks tag.content)

theorem TagSection.nonBlanks_lines (part : TagSection) :
    part.lines.flatMap Text.nonBlanks = tagText part.tag := by
  obtain ⟨c, rest, hstart, -⟩ := startsTag_iff.mp part.startsTag_start
  have hname : Text.nonBlanks part.tag.name = part.tag.name :=
    Text.nonBlanks_eq_self_iff.mpr fun c hc ↦ by simpa using List.mem_takeWhile_imp hc
  have hsplit : part.tag.name ++ part.start.tail.dropWhile (fun c ↦ !isBlank c) = part.start.tail :=
    List.takeWhile_append_dropWhile
  have hfirst : Text.nonBlanks part.start = '@' :: Text.nonBlanks part.start.tail := by
    rw [hstart]
    rfl
  rw [TagSection.lines, List.flatMap_cons, hfirst, ← hsplit, Text.nonBlanks_append, hname, tagText,
    TagSection.tag, nonBlanks_spaced, List.flatMap_cons, Text.nonBlanks_trim, List.cons_append,
    List.append_assoc]

/-- Every character but the blanks stands in the summary or in a tag, in the order of the lines. -/
theorem Outline.nonBlanks_lines (outline : Outline) :
    outline.lines.flatMap Text.nonBlanks =
      Text.nonBlanks outline.block.summary ++ outline.block.tags.flatMap tagText := by
  rw [lines, List.flatMap_append, block, Text.nonBlanks_trim, nonBlanks_intercalate rfl,
    List.flatMap_assoc, List.flatMap_map]
  simp only [TagSection.nonBlanks_lines]

theorem ofComment_eq_block_ofLines (comment : Text) :
    ofComment comment = (Outline.ofLines (commentLines comment)).block := by
  rw [← ofLines_eq_block, Outline.lines_ofLines]
  rfl

/-- The lines of a comment have one outline, and the block consists of its parts: the opening is the
summary, and each section is a tag.  Every line belongs to one part, and what the lines say is what
the summary and the tags say, in order. -/
theorem ofComment_eq_block (comment : Text) :
    ∃ outline : Outline,
      (∀ other : Outline, other.lines = commentLines comment ↔ other = outline) ∧
        ofComment comment = outline.block ∧
        (commentLines comment).flatMap Text.nonBlanks =
          Text.nonBlanks (ofComment comment).summary ++
            (ofComment comment).tags.flatMap tagText := by
  have hlines := Outline.lines_ofLines (commentLines comment)
  have hblock := ofComment_eq_block_ofLines comment
  refine ⟨Outline.ofLines (commentLines comment), ?_, hblock, ?_⟩
  · intro other
    constructor
    · intro h
      rw [← h, Outline.ofLines_lines]
    · rintro rfl
      exact hlines
  · rw [hblock, ← Outline.nonBlanks_lines, hlines]

/-! ## The content of a tag is one line -/

theorem stripGutter_isInfix (line : Text) : stripGutter line <:+: line := by
  unfold stripGutter
  split
  · next rest htrim =>
    have hrest : rest <:+: Text.trim line := htrim ▸ (List.suffix_cons '*' rest).isInfix
    exact ((Text.trim_isInfix rest).trans hrest).trans (Text.trim_isInfix line)
  · exact Text.trim_isInfix line

theorem newline_not_mem_of_mem_commentLines {comment line : Text}
    (h : line ∈ commentLines comment) : '\n' ∉ line := by
  obtain ⟨whole, hwhole, rfl⟩ := List.mem_map.mp h
  exact fun hmem ↦
    Text.newline_not_mem_of_mem_lines hwhole ((stripGutter_isInfix whole).subset hmem)

theorem opening_subset_commentLines (comment : Text) :
    (Outline.ofLines (commentLines comment)).opening ⊆ commentLines comment := by
  conv_rhs => rw [← Outline.lines_ofLines (commentLines comment)]
  exact List.subset_append_left _ _

theorem exists_section_of_mem_tags {comment : Text} {tag : Tag}
    (h : tag ∈ (ofComment comment).tags) :
    ∃ part : TagSection, part.tag = tag ∧ part.lines ⊆ commentLines comment := by
  rw [ofComment_eq_block_ofLines] at h
  obtain ⟨part, hpart, htag⟩ := List.mem_map.mp h
  refine ⟨part, htag, fun line hline ↦ ?_⟩
  rw [← Outline.lines_ofLines (commentLines comment)]
  exact List.mem_append_right _ (List.mem_flatMap.mpr ⟨part, hpart, hline⟩)

theorem mem_intercalate {mark c : Char} {pieces : List Text}
    (h : c ∈ [mark].intercalate pieces) : c = mark ∨ ∃ piece ∈ pieces, c ∈ piece := by
  induction pieces with
  | nil => cases h
  | cons piece pieces ih =>
      by_cases hne : pieces = []
      · subst hne
        exact .inr ⟨piece, by simp, by simpa using h⟩
      · rw [List.intercalate_cons_of_ne_nil hne, List.mem_append, List.mem_append] at h
        obtain (hpiece | hmark) | hlater := h
        · exact .inr ⟨piece, List.mem_cons_self, hpiece⟩
        · exact .inl (List.mem_singleton.mp hmark)
        · refine (ih hlater).imp_right ?_
          rintro ⟨other, hother, hc⟩
          exact ⟨other, List.mem_cons_of_mem piece hother, hc⟩

theorem newline_not_mem_spaced {pieces : List Text} (h : ∀ piece ∈ pieces, '\n' ∉ piece) :
    '\n' ∉ spaced pieces := by
  intro hmem
  rcases mem_intercalate hmem with hspace | ⟨piece, hpiece, hc⟩
  · cases hspace
  · exact h piece (List.mem_of_mem_filter hpiece) hc

theorem newline_not_mem_content {comment : Text} {tag : Tag}
    (h : tag ∈ (ofComment comment).tags) : '\n' ∉ tag.content := by
  obtain ⟨part, rfl, hlines⟩ := exists_section_of_mem_tags h
  obtain ⟨hstart, hmore⟩ := List.forall_mem_cons.mp fun line hline ↦
    newline_not_mem_of_mem_commentLines (hlines hline)
  apply newline_not_mem_spaced
  rw [List.forall_mem_cons]
  refine ⟨fun hmem ↦ hstart ?_, hmore⟩
  have hrest := (List.dropWhile_suffix _).subset ((Text.trim_isInfix _).subset hmem)
  exact List.mem_of_mem_tail hrest

end DocBlock

end EndpointDocs
