import EndpointDocs.Proofs.AncestryWalk
import EndpointDocs.Proofs.TypeLoading
import EndpointDocs.Proofs.Words

/-!
# Canonical names

The canonical form of a name has no separator in front, and no blank behind it.  It may have a blank
in front, which stood between two separators or behind the last of them.  Such a form has another
canonical form, and what is stored under it is not found there.
-/

namespace EndpointDocs

namespace TypeName

variable {name : Text}

/-- A name begins with a blank. -/
def StartsBlank (name : Text) : Prop :=
  ∃ c, name.head? = some c ∧ isBlank c = true

/-- A name is canonical if it is trimmed and does not begin with a separator. -/
theorem canonical_eq_self_iff :
    canonical name = name ↔ Text.trim name = name ∧ name.head? ≠ some '\\' := by
  constructor
  · intro h
    have hlength : name.length ≤ (Text.trim name).length := by
      conv_lhs => rw [← h]
      exact (List.dropWhile_suffix isSeparator).length_le
    have htrim : Text.trim name = name := (Text.trim_isInfix name).eq_of_length_le hlength
    refine ⟨htrim, ?_⟩
    intro hhead
    have hnot := List.head?_dropWhile_not isSeparator name
    rw [canonical, htrim] at h
    rw [h, hhead] at hnot
    simp [isSeparator] at hnot
  · rintro ⟨htrim, hhead⟩
    rw [canonical, htrim]
    cases name with
    | nil => rfl
    | cons c name => exact List.dropWhile_cons_of_neg (by simpa [isSeparator] using hhead)

theorem head_canonical (name : Text) : (canonical name).head? ≠ some '\\' := by
  intro hhead
  have hnot := List.head?_dropWhile_not isSeparator (Text.trim name)
  rw [← canonical, hhead] at hnot
  simp [isSeparator] at hnot

theorem last_canonical {c : Char} (h : (canonical name).getLast? = some c) :
    isBlank c = false := by
  obtain ⟨front, hfront⟩ := List.dropWhile_suffix (l := Text.trim name) isSeparator
  apply (Text.isPiece_trim name).last_not_blank
  rw [← hfront, List.getLast?_append, ← canonical, h]
  rfl

theorem trim_canonical_iff :
    Text.trim (canonical name) = canonical name ↔ ¬ StartsBlank (canonical name) := by
  rw [Text.trim_eq_self_iff]
  constructor
  · rintro hpiece ⟨c, hhead, hblank⟩
    simp [hpiece.head_not_blank c hhead] at hblank
  · intro hstart
    refine ⟨List.infix_rfl, ?_, fun c hc ↦ last_canonical hc⟩
    intro c hc
    apply Bool.eq_false_iff.mpr
    intro hblank
    exact hstart ⟨c, hc, hblank⟩

/-- The canonical form is taken in one step, unless a blank follows the separators that are dropped.
-/
theorem canonical_canonical_iff :
    canonical (canonical name) = canonical name ↔ ¬ StartsBlank (canonical name) := by
  rw [canonical_eq_self_iff, trim_canonical_iff]
  exact and_iff_left (head_canonical name)

end TypeName

namespace TypeTable

variable {types : TypeTable} {name base : Text}

theorem exists_canonical_of_mem {entry : Text × TypeInfo} (h : entry ∈ types.canonicalize) :
    (∃ name, TypeName.canonical name = entry.1) ∧
      types.canonicalize.get? entry.1 = some entry.2 := by
  constructor
  · obtain ⟨spelled, -, heq⟩ := List.mem_map.mp (Table.mem_of_mem_ofEntries h)
    exact ⟨spelled.1, congrArg Prod.fst heq⟩
  · exact Table.get?_of_mem (Table.nodup_keys_ofEntries _) h

theorem canonicalize_singleton (name : Text) (info : TypeInfo) :
    canonicalize [(name, info)] = [(TypeName.canonical name, info)] := rfl

/-- A walk that gets anywhere has found its first type, under the name that is canonical twice. -/
theorem declares_canonical_of_isSubtype (h : types.isSubtype name base = true) :
    types.declares (TypeName.canonical name) = true := by
  rw [isSubtype, Reflection.isSubtype_iff_transGen] at h
  obtain ⟨parent, ⟨info, hinfo, -⟩, -⟩ := Relation.TransGen.head'_iff.mp h
  rw [reflection_info?] at hinfo
  rw [declares, hinfo]
  rfl

/-- A subtype of anything is declared, unless a blank begins its canonical name. -/
theorem declares_of_isSubtype (hname : ¬ TypeName.StartsBlank (TypeName.canonical name))
    (h : types.isSubtype name base = true) : types.declares name = true := by
  have hfound := declares_canonical_of_isSubtype h
  rwa [declares, info?, TypeName.canonical_canonical_iff.mpr hname] at hfound

/-! ## Names with two canonical forms -/

/-- The type of a name is stored, and not found under the name that it is stored under. -/
theorem info?_canonicalize_singleton (hname : TypeName.StartsBlank (TypeName.canonical name))
    (info : TypeInfo) :
    (TypeName.canonical name, info) ∈ canonicalize [(name, info)] ∧
      (canonicalize [(name, info)]).info? (TypeName.canonical name) = none := by
  have hagain : TypeName.canonical (TypeName.canonical name) ≠ TypeName.canonical name :=
    mt TypeName.canonical_canonical_iff.mp (not_not_intro hname)
  rw [canonicalize_singleton, info?, Table.get?_cons, if_neg hagain]
  exact ⟨List.mem_cons_self, rfl⟩

/-- A type that is stored under the second canonical form is walked from and not declared. -/
theorem isSubtype_and_not_declares (hname : TypeName.StartsBlank (TypeName.canonical name)) :
    (canonicalize [(TypeName.canonical name, ⟨[[]], [], none⟩)]).isSubtype name [] = true ∧
      (canonicalize [(TypeName.canonical name, ⟨[[]], [], none⟩)]).declares name = false := by
  have hagain : TypeName.canonical name ≠ TypeName.canonical (TypeName.canonical name) :=
    fun h ↦ TypeName.canonical_canonical_iff.mp h.symm hname
  rw [canonicalize_singleton]
  constructor
  · rw [isSubtype, Reflection.isSubtype_iff_transGen]
    refine .single ⟨⟨[[]], [], none⟩, ?_, [], List.mem_cons_self, rfl⟩
    rw [reflection_info?, info?, Table.get?_cons]
    exact if_pos rfl
  · rw [declares, info?, Table.get?_cons, if_neg hagain]
    rfl

end TypeTable

namespace TypeName

open TypeTable

/-- The canonical form of a name is its own canonical form exactly if no blank is left in front of
it.  Then the type stored under it is found under it, and a type that has ancestors is declared.
Where a blank is left there is a table with the type of the name that is not found under its key,
and one in which the name has an ancestor and is not declared. -/
theorem canonical_fixed_iff_lookups_agree (name : Text) :
    (canonical (canonical name) = canonical name ↔ ¬ StartsBlank (canonical name)) ∧
      (∀ s metadata, Metadata.ofText s = .ok metadata →
        (∀ entry ∈ metadata.types, (∃ spelled, canonical spelled = entry.1) ∧
          (¬ StartsBlank entry.1 → metadata.types.info? entry.1 = some entry.2)) ∧
        (¬ StartsBlank (canonical name) → ∀ base,
          metadata.types.isSubtype name base = true → metadata.types.declares name = true)) ∧
      (StartsBlank (canonical name) →
        (∃ types : TypeTable, ∃ entry ∈ types.canonicalize,
          entry.1 = canonical name ∧ types.canonicalize.info? entry.1 = none) ∧
        ∃ types : TypeTable, ∃ base,
          types.canonicalize.isSubtype name base = true ∧
            types.canonicalize.declares name = false) := by
  refine ⟨canonical_canonical_iff, ?_, ?_⟩
  · intro s metadata h
    obtain ⟨spelled, -, rfl⟩ := (Metadata.ofText_eq_ok_iff s metadata).mp h
    refine ⟨?_, fun hname base hwalk ↦ declares_of_isSubtype hname hwalk⟩
    intro entry hentry
    obtain ⟨⟨origin, horigin⟩, hstored⟩ := exists_canonical_of_mem hentry
    refine ⟨⟨origin, horigin⟩, ?_⟩
    intro hstart
    rw [← horigin, ← canonical_canonical_iff, horigin] at hstart
    rw [info?, hstart]
    exact hstored
  · intro hname
    obtain ⟨hmem, hnone⟩ := info?_canonicalize_singleton hname default
    exact ⟨⟨_, _, hmem, rfl, hnone⟩, _, _, isSubtype_and_not_declares hname⟩

/-! ## A blank behind the separator -/

/-- The text `{"types": {"A": {"ancestors": ["B"]}, "\\ C": {}}}`. -/
def blankText : Text :=
  "\x7b\"types\": \x7b\"A\": \x7b\"ancestors\": [\"B\"]\x7d, ".toList ++
    "\"\\\\ C\": \x7b\x7d\x7d\x7d".toList

def blankTypes : TypeTable :=
  [("A".toList, ⟨["B".toList], [], none⟩), (" C".toList, ⟨[], [], none⟩)]

theorem ofText_blankText : Metadata.ofText blankText = .ok ⟨blankTypes, []⟩ := by
  have hjson : Metadata.ofJson? blankText =
      some ⟨[("A".toList, ⟨["B".toList], [], none⟩), ("\\ C".toList, ⟨[], [], none⟩)], []⟩ := by cbv
  rw [Metadata.ofText_eq_ok_iff, Metadata.spelled?, hjson]
  exact ⟨_, rfl, by rfl⟩

/-- The name with a blank behind its separator is stored with the blank in front, and there it is
not found.  A name that is spelled like this is walked from as `A` and is not declared. -/
theorem canonical_blankText :
    Metadata.ofText blankText = .ok ⟨blankTypes, []⟩ ∧
      canonical (canonical "\\ C".toList) ≠ canonical "\\ C".toList ∧
      (" C".toList, ⟨[], [], none⟩) ∈ blankTypes ∧
      (blankTypes.info? " C".toList).isNone = true ∧
      blankTypes.isSubtype "\\ A".toList "B".toList = true ∧
      blankTypes.declares "\\ A".toList = false := by
  refine ⟨ofText_blankText, by decide +kernel, by simp [blankTypes], by decide +kernel, ?_,
    by decide +kernel⟩
  rw [TypeTable.isSubtype, Reflection.isSubtype_iff_transGen]
  refine .single ⟨⟨["B".toList], [], none⟩, ?_, "B".toList, List.mem_cons_self, rfl⟩
  rfl

end TypeName

end EndpointDocs
