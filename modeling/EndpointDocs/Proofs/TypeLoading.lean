import EndpointDocs.Metadata
import EndpointDocs.Proofs.Table
import EndpointDocs.Proofs.TypeNames
import Mathlib

/-!
# Loading of types

Loading brings the names of types into canonical form.  Where all spellings of a name come with the
same information nothing is lost, and the order in which the entries are gone through does not
matter.  Where they do not, the entry that is gone through last is left, and it may be any of them.
-/

namespace EndpointDocs

namespace TypeTable

variable {types order : TypeTable} {name : Text} {entry rival : Text × TypeInfo}

/-! ## The entry that is gone through last -/

theorem get?_canonicalize_concat (types : TypeTable) (entry : Text × TypeInfo) (name : Text) :
    Table.get? (canonicalize (types ++ [entry])) name =
      if name = TypeName.canonical entry.1 then some entry.2 else types.canonicalize.get? name := by
  have hput : canonicalize (types ++ [entry]) =
      types.canonicalize.put (TypeName.canonical entry.1) entry.2 := by
    simp [canonicalize, Table.ofEntries_concat]
  rw [hput]
  split
  · next heq => rw [heq, Table.get?_put_self]
  · next hne => rw [Table.get?_put_of_ne _ _ hne]

theorem exists_mem_of_get?_canonicalize {info : TypeInfo}
    (h : types.canonicalize.get? name = some info) :
    ∃ entry ∈ types, TypeName.canonical entry.1 = name ∧ entry.2 = info := by
  induction types using List.reverseRecOn with
  | nil => cases h
  | append_singleton types last ih =>
      rw [get?_canonicalize_concat] at h
      split at h
      · next heq => exact ⟨last, by simp, heq.symm, Option.some.inj h⟩
      · obtain ⟨entry, hmem, hfound⟩ := ih h
        exact ⟨entry, List.mem_append_left _ hmem, hfound⟩

theorem isSome_get?_canonicalize (hmem : entry ∈ types) :
    (types.canonicalize.get? (TypeName.canonical entry.1)).isSome := by
  induction types using List.reverseRecOn with
  | nil => cases hmem
  | append_singleton types last ih =>
      rw [get?_canonicalize_concat]
      split
      · rfl
      · next hne =>
        obtain hmem | hmem := List.mem_append.mp hmem
        · exact ih hmem
        · rw [List.mem_singleton.mp hmem] at hne
          exact absurd rfl hne

/-- Under the spelling of an entry there is always an entry of that type. -/
theorem exists_info?_canonicalize (hmem : entry ∈ types) :
    ∃ rival ∈ types, TypeName.SameType rival.1 entry.1 ∧
      types.canonicalize.info? entry.1 = some rival.2 := by
  obtain ⟨info, hinfo⟩ := Option.isSome_iff_exists.mp (isSome_get?_canonicalize hmem)
  obtain ⟨rival, hrival, hname, rfl⟩ := exists_mem_of_get?_canonicalize hinfo
  exact ⟨rival, hrival, hname, hinfo⟩

/-- Every entry is left in the order in which it comes last. -/
theorem exists_perm_info?_eq (hmem : rival ∈ types) :
    ∃ order : TypeTable, order.Perm types ∧
      ∀ name, TypeName.SameType name rival.1 → order.canonicalize.info? name = some rival.2 := by
  obtain ⟨before, after, rfl⟩ := List.append_of_mem hmem
  refine ⟨before ++ after ++ [rival], ?_, ?_⟩
  · rw [List.append_assoc]
    exact (List.perm_append_singleton rival after).append_left before
  · intro name hname
    rw [info?, get?_canonicalize_concat]
    exact if_pos hname

/-! ## Spellings that agree -/

/-- All spellings of a name come with the same information. -/
def Unambiguous (types : TypeTable) : Prop :=
  ∀ entry ∈ types, ∀ rival ∈ types, TypeName.SameType entry.1 rival.1 → entry.2 = rival.2

namespace Unambiguous

/-- Where the spellings of each name agree, every type is found with its own information, whatever
the order of the entries. -/
theorem info?_eq (h : types.Unambiguous) (hperm : order.Perm types) (hmem : entry ∈ types) :
    order.canonicalize.info? entry.1 = some entry.2 := by
  obtain ⟨rival, hrival, hsame, hinfo⟩ := exists_info?_canonicalize (hperm.mem_iff.mpr hmem)
  rw [hinfo, h rival (hperm.mem_iff.mp hrival) entry hmem hsame]

theorem get?_eq (h : types.Unambiguous) (hperm : order.Perm types) (name : Text) :
    order.canonicalize.get? name = types.canonicalize.get? name := by
  -- What either table has under the name comes from an entry, and by that entry from both.
  ext info
  constructor
  · intro hfound
    obtain ⟨entry, hmem, rfl, rfl⟩ := exists_mem_of_get?_canonicalize hfound
    exact h.info?_eq (.refl types) (hperm.mem_iff.mp hmem)
  · intro hfound
    obtain ⟨entry, hmem, rfl, rfl⟩ := exists_mem_of_get?_canonicalize hfound
    exact h.info?_eq hperm hmem

end Unambiguous

theorem unambiguous_iff_info?_eq (types : TypeTable) :
    types.Unambiguous ↔ ∀ order : TypeTable, order.Perm types → ∀ entry ∈ types,
      order.canonicalize.info? entry.1 = some entry.2 := by
  constructor
  · intro h order hperm entry hmem
    exact h.info?_eq hperm hmem
  · intro h entry hmem rival hrival hsame
    obtain ⟨order, hperm, hlast⟩ := exists_perm_info?_eq hrival
    exact Option.some.inj ((h order hperm entry hmem).symm.trans (hlast entry.1 hsame))

/-- The table does not depend on the order of its entries exactly if the spellings agree. -/
theorem unambiguous_iff_get?_eq (types : TypeTable) :
    types.Unambiguous ↔ ∀ order : TypeTable, order.Perm types → ∀ name,
      order.canonicalize.get? name = types.canonicalize.get? name := by
  constructor
  · intro h order hperm name
    exact h.get?_eq hperm name
  · intro h entry hmem rival hrival hsame
    -- Either entry may come last, and the answer is the same.
    obtain ⟨order, hperm, hlast⟩ := exists_perm_info?_eq hmem
    obtain ⟨order', hperm', hlast'⟩ := exists_perm_info?_eq hrival
    have hentry := hlast entry.1 rfl
    have hrival := hlast' entry.1 hsame
    rw [info?, h order hperm] at hentry
    rw [info?, h order' hperm', hentry] at hrival
    exact Option.some.inj hrival

end TypeTable

/-! ## The types of a text -/

namespace Metadata

/-- The metadata of a text with the names of types as they are spelled. -/
def spelled? (s : Text) : Option Metadata :=
  (ofJson? s).or (Yaml.decode? decode s)

/-- Metadata is read with its names as they are spelled, and then they are made canonical. -/
theorem ofText_eq_ok_iff (s : Text) (metadata : Metadata) :
    ofText s = .ok metadata ↔ ∃ spelled, spelled? s = some spelled ∧
      spelled.canonicalize = metadata := by
  rw [ofText, spelled?]
  cases ofJson? s with
  | some spelled => simp
  | none => cases Yaml.decode? decode s <;> simp

/-- Under every spelling there is something of its type.  It is what the text says there, and does
not depend on the order in which the entries are gone through, just where all spellings of a name
come with the same information. -/
theorem types_of_ofText {s : Text} {metadata : Metadata} (h : ofText s = .ok metadata) :
    ∃ types : TypeTable, spelled? s = some ⟨types, metadata.endpoints⟩ ∧
      metadata.types = types.canonicalize ∧
      (∀ order : TypeTable, order.Perm types → ∀ entry ∈ types, ∃ rival ∈ types,
        TypeName.SameType rival.1 entry.1 ∧ order.canonicalize.info? entry.1 = some rival.2) ∧
      (types.Unambiguous ↔ ∀ order : TypeTable, order.Perm types → ∀ entry ∈ types,
        order.canonicalize.info? entry.1 = some entry.2) ∧
      (types.Unambiguous ↔ ∀ order : TypeTable, order.Perm types → ∀ name,
        order.canonicalize.get? name = metadata.types.get? name) := by
  obtain ⟨spelled, hspelled, rfl⟩ := (ofText_eq_ok_iff s metadata).mp h
  refine ⟨spelled.types, hspelled, rfl, ?_, spelled.types.unambiguous_iff_info?_eq,
    spelled.types.unambiguous_iff_get?_eq⟩
  intro order hperm entry hmem
  obtain ⟨rival, hrival, hfound⟩ :=
    TypeTable.exists_info?_canonicalize (hperm.mem_iff.mpr hmem)
  exact ⟨rival, hperm.mem_iff.mp hrival, hfound⟩

/-! ## Two spellings that do not agree -/

/-- The text `{"types": {"A": {"ancestors": ["Form"]}, "\\A": {"doc_comment": …}}}`, which names a
type with and without a separator in front. -/
def rivalText : Text :=
  "\x7b\"types\": \x7b\"A\": \x7b\"ancestors\": [\"Form\"]\x7d, ".toList ++
    "\"\\\\A\": \x7b\"doc_comment\": \"/** @bodyParam title */\"\x7d\x7d\x7d".toList

def formInfo : TypeInfo :=
  ⟨["Form".toList], [], none⟩

def titleInfo : TypeInfo :=
  ⟨[], [], some "/** @bodyParam title */".toList⟩

def rivalTypes : TypeTable :=
  [("A".toList, formInfo), ("\\A".toList, titleInfo)]

theorem spelled?_rivalText : spelled? rivalText = some ⟨rivalTypes, []⟩ := by
  have hjson : ofJson? rivalText = some ⟨rivalTypes, []⟩ := by cbv
  rw [spelled?, hjson, Option.some_or]

theorem ofText_rivalText : ofText rivalText = .ok ⟨rivalTypes.canonicalize, []⟩ :=
  (ofText_eq_ok_iff _ _).mpr ⟨_, spelled?_rivalText, rfl⟩

theorem types_of_ofText_rivalText :
    ofText rivalText = .ok ⟨rivalTypes.canonicalize, []⟩ ∧
      (∃ order : TypeTable, order.Perm rivalTypes ∧
        ∃ entry ∈ rivalTypes, order.canonicalize.info? entry.1 ≠ some entry.2) ∧
      ∃ order : TypeTable, order.Perm rivalTypes ∧
        ∃ name, order.canonicalize.get? name ≠ rivalTypes.canonicalize.get? name := by
  obtain ⟨types, htypes, -, -, hfound, horder⟩ := types_of_ofText ofText_rivalText
  obtain rfl : types = rivalTypes := by
    rw [spelled?_rivalText] at htypes
    cases htypes
    rfl
  have hrivals : ¬ rivalTypes.Unambiguous := by
    intro h
    have hsame : formInfo = titleInfo :=
      h ("A".toList, formInfo) (by simp [rivalTypes]) ("\\A".toList, titleInfo)
        (by simp [rivalTypes]) (by decide +kernel)
    cases hsame
  refine ⟨ofText_rivalText, ?_, ?_⟩
  · simpa only [hfound, not_forall, exists_prop] using hrivals
  · simpa only [horder, not_forall, exists_prop] using hrivals

/-- Of the two entries one is lost, and the order in which they are gone through says which. -/
theorem types_rivalText :
    ofText rivalText = .ok ⟨rivalTypes.canonicalize, []⟩ ∧
      spelled? rivalText = some ⟨rivalTypes, []⟩ ∧ rivalTypes.keys.Nodup ∧
      ("A".toList, formInfo) ∈ rivalTypes ∧
      rivalTypes.canonicalize.info? "A".toList = some titleInfo ∧
      (TypeTable.canonicalize rivalTypes.reverse).info? "A".toList = some formInfo ∧
      formInfo ≠ titleInfo := by
  have hkeys : rivalTypes.keys.Nodup := by decide +kernel
  exact ⟨ofText_rivalText, spelled?_rivalText, hkeys, .head _, rfl, rfl, nofun⟩

end Metadata

end EndpointDocs
