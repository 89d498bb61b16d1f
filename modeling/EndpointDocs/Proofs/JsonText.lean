import EndpointDocs.Proofs.NumeralText
import EndpointDocs.Proofs.QuotedText
import EndpointDocs.Proofs.SampleSize

/-!
# JSON values and their texts

A value without a double is written in one line and read back from it: reading takes its text, and
no more, off the front of what is there, and the tree that it gives is worth the value, unless that
nests deeper than may be read.
-/

namespace EndpointDocs

namespace Json

/-- The values that hold no double.  As values are kept, an integer has 64 bits with or without a
sign, and the fields of an object are sorted by name. -/
inductive WithoutDouble : Json → Prop
  | null : WithoutDouble .null
  | bool (b : Bool) : WithoutDouble (.bool b)
  | int {n : Int} : -0x8000000000000000 ≤ n → n ≤ 0xFFFFFFFFFFFFFFFF → WithoutDouble (.int n)
  | text (s : Text) : WithoutDouble (.text s)
  | array {items : List Json} : (∀ item ∈ items, WithoutDouble item) →
      WithoutDouble (.array items)
  | object {fields : List (Text × Json)} : (∀ field ∈ fields, WithoutDouble field.2) →
      (fields.map Prod.fst).Pairwise (· < ·) → WithoutDouble (.object fields)

mutual

/-- The tree of the text of a value.  The texts of doubles are not spoken of here. -/
def toNode : Json → Node
  | .null => .null
  | .bool b => .bool b
  | .int n => .number (.ofInt n)
  | .float _ => .null
  | .text s => .string (some s)
  | .array items => .array (itemNodes items)
  | .object fields => .object (fieldNodes fields)

def itemNodes : List Json → List Node
  | [] => []
  | item :: items => item.toNode :: itemNodes items

def fieldNodes : List (Text × Json) → List (Option Text × Node)
  | [] => []
  | (name, value) :: fields => (some name, value.toNode) :: fieldNodes fields

end

/-! ## The value of a tree -/

theorem insertField_append {sorted : List (Text × Json)} {name : Text} {value : Json}
    (h : ∀ field ∈ sorted, field.1 < name) :
    insertField name value sorted = sorted ++ [(name, value)] := by
  induction sorted with
  | nil => rfl
  | cons field sorted ih =>
      rw [List.forall_mem_cons] at h
      have hne : name ≠ field.1 := by
        intro heq
        exact List.lt_irrefl name (heq ▸ h.1)
      unfold insertField
      rw [if_neg (List.lt_asymm h.1), if_neg hne, ih h.2, List.cons_append]

theorem foldl_insertField {sorted fields : List (Text × Json)}
    (h : ((sorted ++ fields).map Prod.fst).Pairwise (· < ·)) :
    fields.foldl (fun sorted (name, value) ↦ insertField name value sorted) sorted =
      sorted ++ fields := by
  induction fields generalizing sorted with
  | nil => rw [List.foldl_nil, List.append_nil]
  | cons field fields ih =>
      have hlast : ∀ other ∈ sorted, other.1 < field.1 := by
        rw [List.map_append, List.pairwise_append] at h
        intro other hother
        exact h.2.2 other.1 (List.mem_map_of_mem hother) field.1 List.mem_cons_self
      rw [List.append_cons] at h
      change fields.foldl _ (insertField field.1 field.2 sorted) = _
      rw [insertField_append hlast, ih h, List.append_assoc, List.singleton_append]

/-- Fields that are sorted stay as they are. -/
theorem ofFields_of_sorted {fields : List (Text × Json)}
    (h : (fields.map Prod.fst).Pairwise (· < ·)) : ofFields fields = .object fields := by
  rw [ofFields, foldl_insertField (by simpa using h), List.nil_append]

theorem levels_le_itemLevels {items : List Json} {item : Json} (h : item ∈ items) :
    item.levels ≤ itemLevels items := by
  induction items with
  | nil => cases h
  | cons first items ih =>
      rw [itemLevels]
      rcases List.mem_cons.mp h with rfl | h
      · exact le_max_left _ _
      · exact (ih h).trans (le_max_right _ _)

theorem fieldLevels_eq (fields : List (Text × Json)) :
    fieldLevels fields = itemLevels (fields.map Prod.snd) := by
  induction fields with
  | nil => rfl
  | cons field fields ih => rw [fieldLevels, List.map_cons, itemLevels, ih]

theorem itemNodes_eq (items : List Json) : itemNodes items = items.map toNode := by
  induction items with
  | nil => rfl
  | cons item items ih => rw [itemNodes, List.map_cons, ih]

theorem fieldNodes_eq (fields : List (Text × Json)) :
    fieldNodes fields = fields.map fun field ↦ (some field.1, field.2.toNode) := by
  induction fields with
  | nil => rfl
  | cons field fields ih => rw [fieldNodes, List.map_cons, ih]

theorem mapM_map_eq_some {α β γ : Type} {f : β → Option γ} {g : α → β} {k : α → γ} {xs : List α}
    (h : ∀ x ∈ xs, f (g x) = some (k x)) : (xs.map g).mapM f = some (xs.map k) := by
  induction xs with
  | nil => rfl
  | cons x xs ih =>
      obtain ⟨hx, hxs⟩ := List.forall_mem_cons.mp h
      rw [List.map_cons, List.mapM_cons, hx, ih hxs]
      rfl

/-- The tree of a value has that value, if it is not nested more deeply than allowed. -/
theorem WithoutDouble.value?_toNode {v : Json} (h : v.WithoutDouble) {room : ℕ}
    (hroom : v.levels ≤ room) : v.toNode.value? room = some v := by
  induction h generalizing room with
  | null => rw [toNode, Node.value?]
  | bool b => rw [toNode, Node.value?]
  | text s => rw [toNode, Node.value?, Option.map_some]
  | int hlow hhigh => rw [toNode, Node.value?, Numeral.value?_ofInt hlow hhigh]
  | @array items _ ih =>
      rw [levels] at hroom
      cases room with
      | zero => omega
      | succ room =>
          have hitems : ∀ item ∈ items, item.toNode.value? room = some (id item) := by
            intro item hitem
            have hle := levels_le_itemLevels hitem
            exact ih item hitem (by omega)
          rw [toNode, Node.value?, itemNodes_eq, mapM_map_eq_some hitems, List.map_id]
          rfl
  | @object fields _ hsorted ih =>
      rw [levels, fieldLevels_eq] at hroom
      cases room with
      | zero => omega
      | succ room =>
          have hfields : ∀ field ∈ fields,
              (do return (← some field.1, ← field.2.toNode.value? room)) = some (id field) := by
            intro field hfield
            have hle : field.2.levels ≤ itemLevels (fields.map Prod.snd) :=
              levels_le_itemLevels (List.mem_map_of_mem hfield)
            rw [ih field hfield (by omega)]
            rfl
          rw [toNode, Node.value?, fieldNodes_eq, mapM_map_eq_some hfields, List.map_id]
          exact congrArg some (ofFields_of_sorted hsorted)

/-! ## Reading a written value -/

theorem endsNumber_cons {c : Char} (rest : Text)
    (h : c.isDigit = false ∧ c ≠ '.' ∧ c ≠ 'e' ∧ c ≠ 'E') : EndsNumber (c :: rest) := by
  rintro d ⟨⟩
  exact h

theorem quote_append (name rest : Text) :
    quote name ++ rest = '"' :: (name.flatMap escapeChar ++ '"' :: rest) := by
  simp [quote]

namespace Node

theorem skipSpace_cons {c : Char} (s : Text) (h : isSpace c = false) :
    skipSpace (c :: s) = c :: s :=
  List.dropWhile_cons_of_neg (by rw [h]; decide)

theorem not_isSpace_of_isDigit {c : Char} (h : c.isDigit = true) : isSpace c = false := by
  by_contra hspace
  simp only [isSpace, Bool.not_eq_false, Bool.or_eq_true, beq_iff_eq] at hspace
  rcases hspace with ((rfl | rfl) | rfl) | rfl <;> exact absurd h (by decide)

theorem readValue_of_isDigit {c : Char} (h : c.isDigit = true) (fuel : ℕ) (s : Text) :
    readValue (fuel + 1) (c :: s) = readNumber false (c :: s) := by
  rw [readValue, skipSpace_cons s (not_isSpace_of_isDigit h)]
  split
  all_goals first | rfl | (next heq => cases heq; exact absurd h (by decide))

theorem readValue_minus (fuel : ℕ) (s : Text) :
    readValue (fuel + 1) ('-' :: s) = readNumber true s := by
  rw [readValue, skipSpace_cons _ rfl]
  rfl

theorem readValue_quote (fuel : ℕ) (s rest : Text) :
    readValue (fuel + 1) (quote s ++ rest) = some (.string (some s), rest) := by
  rw [quote_append, readValue, skipSpace_cons _ rfl]
  exact congrArg (Option.map fun read ↦ (Node.string read.1, read.2)) (readString_flatMap s rest)

theorem readValue_items {fuel : ℕ} {c : Char} {s rest : Text} {items : List Node}
    (hspace : isSpace c = false) (hclose : c ≠ ']')
    (h : readItems fuel (c :: s) = some (items, rest)) :
    readValue (fuel + 1) ('[' :: c :: s) = some (.array items, rest) := by
  rw [readValue, skipSpace_cons _ rfl]
  simp only [skipSpace_cons s hspace]
  split
  · next heq => exact absurd (List.cons.inj heq).1 hclose
  · rw [h, Option.map_some]

theorem readValue_fields {fuel : ℕ} {name s rest : Text} {fields : List (Option Text × Node)}
    (h : readFields fuel (quote name ++ s) = some (fields, rest)) :
    readValue (fuel + 1) ('\x7b' :: (quote name ++ s)) = some (.object fields, rest) := by
  rw [quote_append] at h ⊢
  rw [readValue, skipSpace_cons _ rfl]
  simp only [skipSpace_cons _ (show isSpace '"' = false from rfl)]
  exact congrArg (Option.map fun read ↦ (Node.object read.1, read.2)) h

/-! What the readers of items and fields do with one item or field. -/

theorem readItems_last {fuel : ℕ} {s rest : Text} {item : Node}
    (h : readValue fuel s = some (item, ']' :: rest)) :
    readItems (fuel + 1) s = some ([item], rest) := by
  have hclose : skipSpace (']' :: rest) = ']' :: rest := rfl
  rw [readItems, h]
  simp only [Option.bind_eq_bind, Option.bind_some, hclose]
  rfl

theorem readItems_next {fuel : ℕ} {s later rest : Text} {item : Node} {items : List Node}
    (h : readValue fuel s = some (item, ',' :: later))
    (hlater : readItems fuel later = some (items, rest)) :
    readItems (fuel + 1) s = some (item :: items, rest) := by
  have hcomma : skipSpace (',' :: later) = ',' :: later := rfl
  rw [readItems, h]
  simp only [Option.bind_eq_bind, Option.bind_some, hcomma, hlater]
  rfl

theorem readFields_last {fuel : ℕ} {name s rest : Text} {value : Node}
    (h : readValue fuel s = some (value, '\x7d' :: rest)) :
    readFields (fuel + 1) (quote name ++ ':' :: s) = some ([(some name, value)], rest) := by
  have hopen : skipSpace (quote name ++ ':' :: s) =
      '"' :: (name.flatMap escapeChar ++ '"' :: ':' :: s) := by
    rw [quote_append, skipSpace_cons _ rfl]
  have hcolon : skipSpace (':' :: s) = ':' :: s := rfl
  have hclose : skipSpace ('\x7d' :: rest) = '\x7d' :: rest := rfl
  rw [readFields, hopen]
  simp only [readString_flatMap, Option.bind_eq_bind, Option.bind_some, hcolon, h, hclose]
  rfl

theorem readFields_next {fuel : ℕ} {name s later rest : Text} {value : Node}
    {fields : List (Option Text × Node)} (h : readValue fuel s = some (value, ',' :: later))
    (hlater : readFields fuel later = some (fields, rest)) :
    readFields (fuel + 1) (quote name ++ ':' :: s) =
      some ((some name, value) :: fields, rest) := by
  have hopen : skipSpace (quote name ++ ':' :: s) =
      '"' :: (name.flatMap escapeChar ++ '"' :: ':' :: s) := by
    rw [quote_append, skipSpace_cons _ rfl]
  have hcolon : skipSpace (':' :: s) = ':' :: s := rfl
  have hcomma : skipSpace (',' :: later) = ',' :: later := rfl
  rw [readFields, hopen]
  simp only [readString_flatMap, Option.bind_eq_bind, Option.bind_some, hcolon, h, hcomma, hlater]
  rfl

end Node

/-- A written value begins with a character that neither is passed over nor closes an array. -/
theorem WithoutDouble.write_eq_cons {v : Json} (h : v.WithoutDouble) :
    ∃ c s, v.write = c :: s ∧ Node.isSpace c = false ∧ c ≠ ']' := by
  cases h with
  | null => exact ⟨'n', _, rfl, by decide, by decide⟩
  | bool b => cases b <;> exact ⟨_, _, rfl, by decide, by decide⟩
  | text s => exact ⟨'"', _, rfl, by decide, by decide⟩
  | array _ => exact ⟨'[', _, rfl, by decide, by decide⟩
  | object _ _ => exact ⟨'\x7b', _, rfl, by decide, by decide⟩
  | @int n _ _ =>
      cases n with
      | negSucc n => exact ⟨'-', _, rfl, by decide, by decide⟩
      | ofNat n =>
          obtain ⟨c, s, hdigits, hdigit⟩ := Text.ofNat_eq_cons n
          refine ⟨c, s, hdigits, Node.not_isSpace_of_isDigit hdigit, ?_⟩
          rintro rfl
          exact absurd hdigit (by decide)

/-- Reading takes the text of a value, and no more, off the front of what is there. -/
def ReadsBack (v : Json) : Prop :=
  ∀ fuel rest, 2 * v.write.length ≤ fuel → EndsNumber rest →
    Node.readValue fuel (v.write ++ rest) = some (v.toNode, rest)

/-- A text that is not empty leaves fuel for a first step of the reader. -/
theorem readsBack_of_succ {v : Json} (hne : v.write ≠ [])
    (h : ∀ fuel rest, 2 * v.write.length ≤ fuel + 1 → EndsNumber rest →
      Node.readValue (fuel + 1) (v.write ++ rest) = some (v.toNode, rest)) : v.ReadsBack := by
  intro fuel rest hfuel hrest
  have hpos := List.length_pos_iff.mpr hne
  cases fuel with
  | zero => omega
  | succ fuel => exact h fuel rest hfuel hrest

theorem writeItems_cons (item : Json) {items : List Json} (h : items ≠ []) :
    writeItems (item :: items) = item.write ++ ',' :: writeItems items := by
  rw [writeItems]
  exact h

theorem writeFields_cons (name : Text) (value : Json) {fields : List (Text × Json)}
    (h : fields ≠ []) :
    writeFields ((name, value) :: fields) =
      quote name ++ ':' :: (value.write ++ ',' :: writeFields fields) := by
  rw [writeFields]
  exact h

theorem exists_writeItems_eq_cons {items : List Json} (hne : items ≠ [])
    (h : ∀ item ∈ items, item.WithoutDouble) :
    ∃ c s, writeItems items = c :: s ∧ Node.isSpace c = false ∧ c ≠ ']' := by
  cases items with
  | nil => exact absurd rfl hne
  | cons item items =>
      obtain ⟨c, s, hfirst, hc⟩ := (h item List.mem_cons_self).write_eq_cons
      by_cases hlast : items = []
      · exact ⟨c, s, by rw [hlast, writeItems, hfirst], hc⟩
      · exact ⟨c, s ++ ',' :: writeItems items, by rw [writeItems_cons item hlast, hfirst]; rfl, hc⟩

theorem exists_writeFields_eq_quote {fields : List (Text × Json)} (hne : fields ≠ []) :
    ∃ name s, writeFields fields = quote name ++ s := by
  cases fields with
  | nil => exact absurd rfl hne
  | cons field fields =>
      by_cases hlast : fields = []
      · exact ⟨field.1, _, by rw [hlast, writeFields]⟩
      · exact ⟨field.1, _, writeFields_cons field.1 field.2 hlast⟩

/-- Items are read back one by one, if each of them is. -/
theorem readItems_writeItems {items : List Json} (hne : items ≠ [])
    (h : ∀ item ∈ items, item.ReadsBack) (fuel : ℕ) (rest : Text)
    (hfuel : 2 * (writeItems items).length + 1 ≤ fuel) :
    Node.readItems fuel (writeItems items ++ ']' :: rest) = some (itemNodes items, rest) := by
  induction items generalizing fuel with
  | nil => exact absurd rfl hne
  | cons item items ih =>
      obtain ⟨fuel, rfl⟩ : ∃ k, fuel = k + 1 := ⟨fuel - 1, by omega⟩
      obtain ⟨hitem, hitems⟩ := List.forall_mem_cons.mp h
      by_cases hlast : items = []
      · subst hlast
        rw [writeItems] at hfuel ⊢
        apply Node.readItems_last
        exact hitem fuel _ (by omega) (endsNumber_cons _ (by decide))
      · rw [writeItems_cons item hlast] at hfuel ⊢
        simp only [List.length_append, List.length_cons] at hfuel
        rw [List.append_assoc, List.cons_append]
        apply Node.readItems_next
        · exact hitem fuel _ (by omega) (endsNumber_cons _ (by decide))
        · exact ih hlast hitems fuel (by omega)

theorem readFields_writeFields {fields : List (Text × Json)} (hne : fields ≠ [])
    (h : ∀ field ∈ fields, field.2.ReadsBack) (fuel : ℕ) (rest : Text)
    (hfuel : 2 * (writeFields fields).length + 1 ≤ fuel) :
    Node.readFields fuel (writeFields fields ++ '\x7d' :: rest) =
      some (fieldNodes fields, rest) := by
  induction fields generalizing fuel with
  | nil => exact absurd rfl hne
  | cons field fields ih =>
      obtain ⟨name, value⟩ := field
      obtain ⟨fuel, rfl⟩ : ∃ k, fuel = k + 1 := ⟨fuel - 1, by omega⟩
      obtain ⟨hvalue, hfields⟩ := List.forall_mem_cons.mp h
      change value.ReadsBack at hvalue
      by_cases hlast : fields = []
      · subst hlast
        rw [writeFields] at hfuel ⊢
        simp only [List.length_append, List.length_cons] at hfuel
        rw [List.append_assoc, List.cons_append]
        apply Node.readFields_last
        exact hvalue fuel _ (by omega) (endsNumber_cons _ (by decide))
      · rw [writeFields_cons name value hlast] at hfuel ⊢
        simp only [List.length_append, List.length_cons] at hfuel
        rw [List.append_assoc, List.cons_append, List.append_assoc, List.cons_append]
        apply Node.readFields_next
        · exact hvalue fuel _ (by omega) (endsNumber_cons _ (by decide))
        · exact ih hlast hfields fuel (by omega)

theorem readsBack_int (n : Int) : (Json.int n).ReadsBack := by
  cases n with
  | negSucc n =>
      refine readsBack_of_succ (List.cons_ne_nil _ _) ?_
      intro fuel rest _ hrest
      change Node.readValue (fuel + 1) ('-' :: (Text.ofNat (n + 1) ++ rest)) = _
      rw [Node.readValue_minus, Node.readNumber_append true (n + 1) hrest, toNode,
        Numeral.ofInt_negSucc]
  | ofNat n =>
      refine readsBack_of_succ (Text.ofNat_ne_nil n) ?_
      intro fuel rest _ hrest
      change Node.readValue (fuel + 1) (Text.ofNat n ++ rest) = _
      have hread := Node.readNumber_append false n hrest
      obtain ⟨c, s, hdigits, hdigit⟩ := Text.ofNat_eq_cons n
      rw [hdigits, List.cons_append] at hread ⊢
      rw [Node.readValue_of_isDigit hdigit, hread, ← hdigits, toNode]
      rfl

theorem readsBack_array {items : List Json} (hdouble : ∀ item ∈ items, item.WithoutDouble)
    (h : ∀ item ∈ items, item.ReadsBack) : (Json.array items).ReadsBack := by
  refine readsBack_of_succ (List.cons_ne_nil _ _) ?_
  intro fuel rest hfuel _
  rw [write] at hfuel ⊢
  simp only [List.length_append, List.length_cons, List.length_nil] at hfuel
  rw [toNode, List.cons_append, List.append_assoc, List.singleton_append]
  by_cases hempty : items = []
  · subst hempty
    rfl
  · have hread := readItems_writeItems hempty h fuel rest (by omega)
    obtain ⟨c, s, hfirst, hspace, hclose⟩ := exists_writeItems_eq_cons hempty hdouble
    rw [hfirst, List.cons_append] at hread ⊢
    exact Node.readValue_items hspace hclose hread

theorem readsBack_object {fields : List (Text × Json)}
    (h : ∀ field ∈ fields, field.2.ReadsBack) : (Json.object fields).ReadsBack := by
  refine readsBack_of_succ (List.cons_ne_nil _ _) ?_
  intro fuel rest hfuel _
  rw [write] at hfuel ⊢
  simp only [List.length_append, List.length_cons, List.length_nil] at hfuel
  rw [toNode, List.cons_append, List.append_assoc, List.singleton_append]
  by_cases hempty : fields = []
  · subst hempty
    rfl
  · have hread := readFields_writeFields hempty h fuel rest (by omega)
    obtain ⟨name, s, hfirst⟩ := exists_writeFields_eq_quote hempty
    rw [hfirst, List.append_assoc] at hread ⊢
    exact Node.readValue_fields hread

/-- By induction on the value, the text of which is read off the front of any text that may follow.
-/
theorem WithoutDouble.readsBack {v : Json} (h : v.WithoutDouble) : v.ReadsBack := by
  induction h with
  | null => exact readsBack_of_succ (List.cons_ne_nil _ _) fun _ _ _ _ ↦ rfl
  | bool b =>
      cases b with
      | true => exact readsBack_of_succ (List.cons_ne_nil _ _) fun _ _ _ _ ↦ rfl
      | false => exact readsBack_of_succ (List.cons_ne_nil _ _) fun _ _ _ _ ↦ rfl
  | text s =>
      refine readsBack_of_succ (List.cons_ne_nil _ _) ?_
      intro fuel rest _ _
      rw [write, toNode, Node.readValue_quote]
  | int _ _ => exact readsBack_int _
  | array hitems ih => exact readsBack_array hitems ih
  | object _ _ ih => exact readsBack_object ih

theorem ReadsBack.read?_write {v : Json} (h : v.ReadsBack) :
    Node.read? v.write = some v.toNode := by
  have hread := h (2 * v.write.length + 2) [] (by omega) (by rintro c ⟨⟩)
  rw [List.append_nil] at hread
  rw [Node.read?, hread]
  rfl

/-- A value without a double is read back from its text if it nests no deeper than may be read. -/
theorem WithoutDouble.read?_write {v : Json} (h : v.WithoutDouble)
    (hlevels : v.levels ≤ deepestNesting) : read? v.write = some v := by
  rw [read?, h.readsBack.read?_write, Option.bind_some, h.value?_toNode hlevels]

end Json

end EndpointDocs
