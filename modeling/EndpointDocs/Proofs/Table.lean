import EndpointDocs.Table
import Mathlib.Data.List.Induction
import Mathlib.Data.List.Nodup

/-!
# Tables as maps

A name that is put in is found again, the other names are found as before, and the order of the
names changes only by a new name at the end.  So the table of some entries has their names in the
order in which they first occur, and under each name what comes last.
-/

namespace EndpointDocs.Table

variable {α : Type}

def keys (table : Table α) : List Text :=
  table.map Prod.fst

@[simp] theorem keys_nil : keys ([] : Table α) = [] := rfl

@[simp] theorem keys_cons (entry : Text × α) (table : Table α) :
    keys (entry :: table) = entry.1 :: keys table := rfl

@[simp] theorem get?_nil (name : Text) : get? ([] : Table α) name = none := rfl

theorem get?_cons (entry : Text × α) (table : Table α) (name : Text) :
    get? (entry :: table) name = if name = entry.1 then some entry.2 else get? table name := by
  obtain ⟨key, value⟩ := entry
  by_cases h : name = key
  · subst h
    simp [get?]
  · have hne : (name == key) = false := beq_eq_false_iff_ne.mpr h
    simp [get?, List.lookup_cons, h, hne]

@[simp] theorem get?_put_self (table : Table α) (name : Text) (value : α) :
    (table.put name value).get? name = some value := by
  induction table with
  | nil => simp [put, get?_cons]
  | cons entry table ih =>
      by_cases h : entry.1 = name
      · simp [put, get?_cons, h]
      · simp [put, get?_cons, h, Ne.symm h, ih]

theorem get?_put_of_ne (table : Table α) {name other : Text} (value : α) (h : other ≠ name) :
    (table.put name value).get? other = table.get? other := by
  induction table with
  | nil => simp [put, get?_cons, h]
  | cons entry table ih =>
      by_cases he : entry.1 = name
      · simp [put, get?_cons, he, h]
      · simp [put, get?_cons, he, ih]

theorem get?_map {β : Type} (table : Table α) (f : Text → α → β) (name : Text) :
    get? (table.map fun entry ↦ (entry.1, f entry.1 entry.2)) name =
      (table.get? name).map (f name) := by
  induction table with
  | nil => rfl
  | cons entry table ih =>
      rw [List.map_cons, get?_cons, get?_cons, ih]
      split
      · next heq => rw [heq, Option.map_some]
      · rfl

theorem mem_keys_iff (table : Table α) (name : Text) :
    name ∈ table.keys ↔ (table.get? name).isSome := by
  induction table with
  | nil => simp
  | cons entry table ih =>
      by_cases h : name = entry.1
      · simp [get?_cons, h]
      · simp [get?_cons, h, ih]

/-- A name that is there keeps its place, and a new one comes last. -/
theorem keys_put (table : Table α) (name : Text) (value : α) :
    (table.put name value).keys =
      if name ∈ table.keys then table.keys else table.keys ++ [name] := by
  induction table with
  | nil => simp [put]
  | cons entry table ih =>
      by_cases h : entry.1 = name
      · simp [put, h]
      · by_cases hmem : name ∈ keys table <;> simp [put, h, Ne.symm h, ih, hmem]

theorem mem_keys_put (table : Table α) (name other : Text) (value : α) :
    other ∈ (table.put name value).keys ↔ other ∈ table.keys ∨ other = name := by
  rw [keys_put]
  split
  · next hmem =>
    refine ⟨Or.inl, ?_⟩
    rintro (hother | rfl)
    · exact hother
    · exact hmem
  · simp

theorem nodup_keys_put {table : Table α} (h : table.keys.Nodup) (name : Text) (value : α) :
    (table.put name value).keys.Nodup := by
  rw [keys_put]
  split
  · exact h
  · next hnew =>
    rw [← List.concat_eq_append]
    exact h.concat hnew

theorem filter_put (table : Table α) (keep : Text → Bool) (name : Text) (value : α) :
    (table.put name value).filter (fun entry ↦ keep entry.1) =
      if keep name then Table.put (table.filter fun entry ↦ keep entry.1) name value
      else table.filter fun entry ↦ keep entry.1 := by
  induction table with
  | nil => by_cases hkeep : keep name = true <;> simp [put, hkeep]
  | cons entry table ih =>
      by_cases heq : entry.1 = name
      · by_cases hkeep : keep name = true <;> simp [put, heq, hkeep]
      · by_cases hkeep : keep name = true <;> by_cases hentry : keep entry.1 = true <;>
          simp [put, heq, hkeep, hentry, ih]

/-! ## The table of some entries -/

theorem ofEntries_concat (entries : List (Text × α)) (entry : Text × α) :
    ofEntries (entries ++ [entry]) = (ofEntries entries).put entry.1 entry.2 := by
  simp [ofEntries]

theorem eraseDups_concat (names : List Text) (name : Text) :
    (names ++ [name]).eraseDups =
      if name ∈ names then names.eraseDups else names.eraseDups ++ [name] := by
  rw [List.eraseDups_append]
  by_cases h : name ∈ names <;> simp [List.removeAll, List.eraseDups_cons, h]

/-- The names come in the order in which they first occur. -/
theorem keys_ofEntries (entries : List (Text × α)) :
    (ofEntries entries).keys = (entries.map Prod.fst).eraseDups := by
  induction entries using List.reverseRecOn with
  | nil => rfl
  | append_singleton entries entry ih =>
      rw [ofEntries_concat, keys_put, ih, List.map_append, List.map_singleton, eraseDups_concat]
      simp only [List.mem_eraseDups]

theorem nodup_keys_ofEntries (entries : List (Text × α)) : (ofEntries entries).keys.Nodup := by
  induction entries using List.reverseRecOn with
  | nil => exact List.nodup_nil
  | append_singleton entries entry ih =>
      rw [ofEntries_concat]
      exact nodup_keys_put ih entry.1 entry.2

/-- Of the entries under one name, the last counts. -/
theorem get?_ofEntries (entries : List (Text × α)) (name : Text) :
    (ofEntries entries).get? name = get? entries.reverse name := by
  induction entries using List.reverseRecOn with
  | nil => rfl
  | append_singleton entries entry ih =>
      rw [ofEntries_concat, List.reverse_append, List.reverse_singleton, List.singleton_append,
        get?_cons]
      split
      · next heq => rw [heq, get?_put_self]
      · next hne => rw [get?_put_of_ne _ _ hne, ih]

theorem get?_of_mem {table : Table α} (h : table.keys.Nodup) {entry : Text × α}
    (hmem : entry ∈ table) : table.get? entry.1 = some entry.2 := by
  induction table with
  | nil => cases hmem
  | cons first table ih =>
      rw [keys_cons, List.nodup_cons] at h
      rw [get?_cons]
      rcases List.mem_cons.mp hmem with rfl | hmem
      · exact if_pos rfl
      · have hkey : entry.1 ∈ keys table := List.mem_map_of_mem hmem
        rw [if_neg]
        · exact ih h.2 hmem
        · rintro heq
          exact h.1 (heq ▸ hkey)

theorem mem_put {table : Table α} {name : Text} {value : α} {entry : Text × α}
    (h : entry ∈ table.put name value) : entry = (name, value) ∨ entry ∈ table := by
  induction table with
  | nil => exact .inl (List.mem_singleton.mp h)
  | cons first table ih =>
      rw [put] at h
      split at h
      · rcases List.mem_cons.mp h with rfl | h
        · exact .inl rfl
        · exact .inr (List.mem_cons_of_mem _ h)
      · rcases List.mem_cons.mp h with rfl | h
        · exact .inr List.mem_cons_self
        · exact (ih h).imp_right (List.mem_cons_of_mem _)

theorem mem_of_mem_ofEntries {entries : List (Text × α)} {entry : Text × α}
    (h : entry ∈ ofEntries entries) : entry ∈ entries := by
  induction entries using List.reverseRecOn with
  | nil => cases h
  | append_singleton entries last ih =>
      rw [ofEntries_concat] at h
      rcases mem_put h with rfl | h
      · simp
      · exact List.mem_append_left _ (ih h)

theorem filter_ofEntries (entries : List (Text × α)) (keep : Text → Bool) :
    (ofEntries entries).filter (fun entry ↦ keep entry.1) =
      ofEntries (entries.filter fun entry ↦ keep entry.1) := by
  induction entries using List.reverseRecOn with
  | nil => rfl
  | append_singleton entries entry ih =>
      rw [ofEntries_concat, filter_put, ih, List.filter_append]
      by_cases hkeep : keep entry.1 = true <;> simp [hkeep, ofEntries_concat]

/-! ## One table after another -/

/-- A table with the values that a later table has for its names. -/
def update (earlier later : Table α) : Table α :=
  earlier.map fun entry ↦ (entry.1, (later.get? entry.1).getD entry.2)

/-- The entries of two tables: a name of both keeps its place and takes its later value, and the
names of the later table alone come after those of the earlier one. -/
def merge (earlier later : Table α) : Table α :=
  earlier.update later ++ later.filter fun entry ↦ (earlier.get? entry.1).isNone

@[simp] theorem keys_update (earlier later : Table α) :
    (earlier.update later).keys = earlier.keys := by
  simp [keys, update]

@[simp] theorem merge_nil (earlier : Table α) : earlier.merge [] = earlier := by
  simp [merge, update]

theorem put_append_of_mem {front : Table α} {name : Text} (h : name ∈ front.keys) (back : Table α)
    (value : α) : put (front ++ back) name value = front.put name value ++ back := by
  induction front with
  | nil => cases h
  | cons entry front ih =>
      by_cases heq : entry.1 = name
      · simp [put, heq]
      · have hmem : name ∈ keys front := by simpa [Ne.symm heq] using h
        simp [put, heq, ih hmem]

theorem put_append_of_notMem {front : Table α} {name : Text} (h : name ∉ front.keys)
    (back : Table α) (value : α) :
    put (front ++ back) name value = front ++ back.put name value := by
  induction front with
  | nil => rfl
  | cons entry front ih =>
      obtain ⟨hne, hnotMem⟩ : name ≠ entry.1 ∧ name ∉ keys front := by simpa using h
      simp [put, Ne.symm hne, ih hnotMem]

theorem update_put_of_notMem {earlier : Table α} {name : Text} (h : name ∉ earlier.keys)
    (later : Table α) (value : α) :
    earlier.update (later.put name value) = earlier.update later := by
  apply List.map_congr_left
  intro entry hmem
  have hne : entry.1 ≠ name := by
    rintro rfl
    exact h (List.mem_map_of_mem hmem)
  rw [get?_put_of_ne _ _ hne]

theorem update_put_of_mem {earlier : Table α} (hnodup : earlier.keys.Nodup) {name : Text}
    (h : name ∈ earlier.keys) (later : Table α) (value : α) :
    earlier.update (later.put name value) = (earlier.update later).put name value := by
  induction earlier with
  | nil => cases h
  | cons entry earlier ih =>
      obtain ⟨hnotMem, hnodup⟩ := List.nodup_cons.mp hnodup
      by_cases heq : entry.1 = name
      · subst heq
        have hrest := update_put_of_notMem hnotMem later value
        simp only [update, List.map_cons, put, get?_put_self, Option.getD_some, if_true] at hrest ⊢
        rw [hrest]
      · have hmem : name ∈ keys earlier := by simpa [Ne.symm heq] using h
        have hrest := ih hnodup hmem
        simp only [update, List.map_cons, put, get?_put_of_ne _ _ heq, if_neg heq] at hrest ⊢
        rw [hrest]

/-- What is put into the later table is put into both. -/
theorem merge_put {earlier : Table α} (hnodup : earlier.keys.Nodup) (later : Table α)
    (name : Text) (value : α) :
    earlier.merge (later.put name value) = (earlier.merge later).put name value := by
  have hnew : (earlier.get? name).isNone = true ↔ name ∉ earlier.keys := by
    rw [mem_keys_iff, Option.isNone_iff_eq_none, Option.isSome_iff_ne_none, not_not]
  unfold merge
  rw [filter_put later fun other ↦ (earlier.get? other).isNone]
  by_cases hmem : name ∈ earlier.keys
  · rw [if_neg (by simpa [hnew] using hmem), update_put_of_mem hnodup hmem,
      put_append_of_mem (by rwa [keys_update])]
  · rw [if_pos (hnew.mpr hmem), update_put_of_notMem hmem,
      put_append_of_notMem (by rwa [keys_update])]

end EndpointDocs.Table
