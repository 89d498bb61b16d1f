import EndpointDocs.Proofs.Occurrence
import EndpointDocs.Proofs.Replacement
import EndpointDocs.Proofs.Splitting
import EndpointDocs.RequestNaming

/-!
# The module of an entity

The module of an entity is its namespace without the segment for models at the end.  A last segment
that is longer and only ends in the word for models is not such a segment, but it loses these
letters as well: there, and nowhere else, the module is not what the segments say.
-/

namespace EndpointDocs

namespace TypeName

def segments (name : Text) : List Text :=
  name.splitOn '\\'

def ofSegments (segments : List Text) : Text :=
  ['\\'].intercalate segments

theorem ofSegments_segments (name : Text) : ofSegments (segments name) = name :=
  List.intercalate_splitOn '\\'

theorem segments_append_cons (front name : Text) :
    segments (front ++ '\\' :: name) = segments front ++ segments name :=
  List.splitOn_append_cons_self front name

theorem exists_segments_eq (name : Text) : ∃ front last, segments name = front ++ [last] :=
  (List.eq_nil_or_concat' _).resolve_left (List.splitOn_ne_nil '\\' name)

theorem ofSegments_concat_append (front : List Text) (part tail : Text) :
    ofSegments (front ++ [part ++ tail]) = ofSegments (front ++ [part]) ++ tail := by
  by_cases hfront : front = []
  · subst hfront
    simp [ofSegments]
  · rw [ofSegments, ofSegments, Text.intercalate_concat hfront, Text.intercalate_concat hfront,
      List.append_assoc, List.cons_append]

end TypeName

namespace RequestNaming

def modelsSegment : Text := "Models".toList

theorem segments_modelsSegment : TypeName.segments modelsSegment = [modelsSegment] :=
  List.splitOn_eq_singleton (by decide)

/-- What is kept of the segments of a namespace: all but a last one that is the word `Models`, and
all but these letters of a longer one that ends in them. -/
inductive Keeps : List Text → List Text → Prop
  | segment (front : List Text) : Keeps (front ++ [modelsSegment]) front
  | letters (front : List Text) {part : Text} : part ≠ [] →
      Keeps (front ++ [part ++ modelsSegment]) (front ++ [part])
  | whole (front : List Text) {last : Text} : ¬ modelsSegment <:+ last →
      Keeps (front ++ [last]) (front ++ [last])

theorem keeps_of_letters {rest : Text} (h : ¬ '\\' :: modelsSegment <:+ rest ++ modelsSegment) :
    ∃ kept, Keeps (TypeName.segments (rest ++ modelsSegment)) kept ∧
      rest = TypeName.ofSegments kept := by
  obtain ⟨front, part, hrest⟩ := TypeName.exists_segments_eq rest
  have hjoined := TypeName.ofSegments_segments rest
  rw [hrest] at hjoined
  have hsegments : TypeName.segments (rest ++ modelsSegment) = front ++ [part ++ modelsSegment] :=
    Text.splitOn_append hrest segments_modelsSegment
  rw [hsegments]
  by_cases hpart : part = []
  · -- Without letters in front of it the word is a segment, and so it is the only one.
    subst hpart
    by_cases hfront : front = []
    · subst hfront
      exact ⟨[], .segment [], hjoined.symm⟩
    · exfalso
      apply h
      rw [← hjoined, TypeName.ofSegments, Text.intercalate_concat hfront, List.append_assoc]
      exact List.suffix_append _ _
  · exact ⟨front ++ [part], .letters front hpart, hjoined.symm⟩

/-- What two cuts at the end of a namespace leave of it can be told by its segments. -/
theorem exists_keeps_moduleOf (entity : Text) :
    ∃ kept, Keeps (TypeName.segments (TypeName.namespaceOf entity)) kept ∧
      moduleOf entity = TypeName.ofSegments kept := by
  rw [moduleOf]
  generalize TypeName.namespaceOf entity = whole
  split
  · next rest hrest =>
    obtain rfl : rest ++ '\\' :: modelsSegment = whole :=
      List.isSuffixOf?_eq_some_iff_append_eq.mp hrest
    refine ⟨TypeName.segments rest, ?_, (TypeName.ofSegments_segments rest).symm⟩
    rw [TypeName.segments_append_cons, segments_modelsSegment]
    exact .segment (TypeName.segments rest)
  · next hsegment =>
    rw [Text.isSuffixOf?_eq_none_iff] at hsegment
    cases hletters : "Models".toList.isSuffixOf? whole with
    | some rest =>
        obtain rfl : rest ++ modelsSegment = whole :=
          List.isSuffixOf?_eq_some_iff_append_eq.mp hletters
        exact keeps_of_letters hsegment
    | none =>
        rw [Text.isSuffixOf?_eq_none_iff] at hletters
        obtain ⟨front, last, hwhole⟩ := TypeName.exists_segments_eq whole
        have hjoined := TypeName.ofSegments_segments whole
        rw [hwhole] at hjoined
        rw [hwhole]
        refine ⟨front ++ [last], .whole front ?_, hjoined.symm⟩
        rintro ⟨part, rfl⟩
        apply hletters
        rw [← hjoined, TypeName.ofSegments_concat_append]
        exact List.suffix_append _ _

/-- The namespace without a last segment that is the word `Models`. -/
def withoutModels (whole : Text) : Text :=
  if (TypeName.segments whole).getLast? = some modelsSegment then
    TypeName.ofSegments (TypeName.segments whole).dropLast
  else whole

/-- The last segment of a namespace ends in `Models` and is longer than that. -/
def EndsInLongerModels (whole : Text) : Prop :=
  ∃ part, part ≠ [] ∧ (TypeName.segments whole).getLast? = some (part ++ modelsSegment)

/-- The namespace of models is taken off as a segment, unless a longer last segment ends in that
word. -/
theorem moduleOf_eq_iff (entity : Text) :
    moduleOf entity = withoutModels (TypeName.namespaceOf entity) ↔
      ¬ EndsInLongerModels (TypeName.namespaceOf entity) := by
  obtain ⟨kept, hkeeps, hmodule⟩ := exists_keeps_moduleOf entity
  have hjoined := TypeName.ofSegments_segments (TypeName.namespaceOf entity)
  rw [hmodule, withoutModels, EndsInLongerModels]
  generalize TypeName.segments (TypeName.namespaceOf entity) = all at hkeeps hjoined ⊢
  cases hkeeps with
  | segment front => simp
  | @letters front part hpart =>
      have hkept : TypeName.ofSegments (front ++ [part]) ≠ TypeName.namespaceOf entity := by
        rw [← hjoined, TypeName.ofSegments_concat_append]
        intro heq
        exact absurd (List.self_eq_append_right.mp heq) (by decide)
      simp [hkept, hpart]
  | @whole front last hlast =>
      have hword : last ≠ modelsSegment := by
        rintro rfl
        exact hlast List.suffix_rfl
      have hlonger : ∀ longer, ¬ longer = [] → ¬ last = longer ++ modelsSegment := by
        rintro longer - rfl
        exact hlast (List.suffix_append _ _)
      simpa [hword, hjoined] using hlonger

theorem moduleOf_of_longer {entity part : Text} {front : List Text} (hpart : part ≠ [])
    (h : TypeName.segments (TypeName.namespaceOf entity) = front ++ [part ++ modelsSegment]) :
    moduleOf entity = TypeName.ofSegments (front ++ [part]) := by
  obtain ⟨kept, hkeeps, hmodule⟩ := exists_keeps_moduleOf entity
  rw [h] at hkeeps
  rw [hmodule]
  generalize hall : front ++ [part ++ modelsSegment] = all at hkeeps
  cases hkeeps with
  | segment other => simp [hpart] at hall
  | letters other _ =>
      obtain ⟨rfl, rfl⟩ : front = other ∧ part = _ := by simpa using hall
      rfl
  | whole other hlast =>
      obtain ⟨-, rfl⟩ : front = other ∧ part ++ modelsSegment = _ := by simpa using hall
      exact absurd (List.suffix_append _ _) hlast

/-- The module that is put into a namespace is the one of the entity without a last segment `Models`
exactly if its last segment is not a longer one with that word at its end.  If it is, the segment is
cut off before these letters. -/
theorem namespaceFor_eq_withoutModels_iff (entity : Text) :
    ((∀ naming : RequestNaming, naming.namespaceFor entity =
        Text.replace (placeholder "module") (withoutModels (TypeName.namespaceOf entity))
          naming.namespaceTemplate) ↔
      ¬ EndsInLongerModels (TypeName.namespaceOf entity)) ∧
    ∀ front part, part ≠ [] →
      TypeName.segments (TypeName.namespaceOf entity) = front ++ [part ++ modelsSegment] →
      ∀ naming : RequestNaming, naming.namespaceFor entity =
        Text.replace (placeholder "module") (TypeName.ofSegments (front ++ [part]))
          naming.namespaceTemplate := by
  constructor
  · rw [← moduleOf_eq_iff]
    constructor
    · intro h
      -- A namespace that is the placeholder alone shows what is put in its place.
      have hself : ∀ new, Text.replace (placeholder "module") new (placeholder "module") = new := by
        intro new
        have hne : placeholder "module" ≠ [] := by decide
        have hfirst := Text.replace_append_self hne new []
        simpa [Text.replace, Text.replaceFrom] using hfirst
      have hmodule := h ⟨placeholder "module", []⟩
      rwa [namespaceFor, hself, hself] at hmodule
    · intro h naming
      rw [namespaceFor, h]
  · intro front part hpart hsegments naming
    rw [namespaceFor, moduleOf_of_longer hpart hsegments]

/-- Data models have a segment of their own that only ends in the word, and it is cut. -/
theorem namespaceFor_dataModels :
    namespaceFor ⟨"\x7bmodule\x7d\\Http\\Requests".toList, []⟩ "App\\DataModels\\Post".toList =
        "App\\Data\\Http\\Requests".toList ∧
      Text.replace (placeholder "module")
          (withoutModels (TypeName.namespaceOf "App\\DataModels\\Post".toList))
          "\x7bmodule\x7d\\Http\\Requests".toList =
        "App\\DataModels\\Http\\Requests".toList := by
  decide +kernel

end RequestNaming

end EndpointDocs
