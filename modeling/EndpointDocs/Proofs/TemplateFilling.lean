import EndpointDocs.Config
import EndpointDocs.Proofs.Replacement
import Mathlib.Data.List.Forall2
import Mathlib.Logic.Function.Basic

/-!
# Filling in a template

A template is letters and slots, and filling it in puts a value in the place of each slot at once.
Expansion replaces one placeholder after the other instead, each over all of the text that the one
before has left.  The two agree unless a value brings in a placeholder that is still to be replaced
or completes one with the text beside it.
-/

namespace EndpointDocs

namespace RequestNaming

inductive Slot where
  | requestNamespace
  | entity
  | action
deriving DecidableEq, Repr

def Slot.written : Slot → Text
  | requestNamespace => placeholder "namespace"
  | entity => placeholder "entity"
  | action => placeholder "action"

def Slot.all : List Slot :=
  [requestNamespace, entity, action]

/-- The slot whose placeholder a text begins with. -/
def slotAt? (s : Text) : Option Slot :=
  Slot.all.find? fun q ↦ q.written.isPrefixOf s

inductive Piece where
  | letter (c : Char)
  | slot (q : Slot)
deriving DecidableEq, Repr

/-- Reads the pieces of a template from the left; `skip` characters of a placeholder already read
are still to be passed over. -/
def piecesFrom : ℕ → Text → List Piece
  | _, [] => []
  | skip + 1, _ :: s => piecesFrom skip s
  | 0, c :: s =>
    match slotAt? (c :: s) with
    | some q => .slot q :: piecesFrom (q.written.length - 1) s
    | none => .letter c :: piecesFrom 0 s

def pieces (template : Text) : List Piece :=
  piecesFrom 0 template

/-- The text of pieces with a value in each slot. -/
def fill (value : Slot → Text) (ps : List Piece) : Text :=
  ps.flatMap fun
    | .letter c => [c]
    | .slot q => value q

/-- A template with a value in the place of each of its placeholders and of nothing else. -/
def substitute (value : Slot → Text) (template : Text) : Text :=
  fill value (pieces template)

section Fill

variable (value : Slot → Text)

@[simp] theorem fill_nil : fill value [] = [] := rfl

@[simp] theorem fill_letter (c : Char) (ps : List Piece) :
    fill value (.letter c :: ps) = c :: fill value ps := rfl

@[simp] theorem fill_slot (q : Slot) (ps : List Piece) :
    fill value (.slot q :: ps) = value q ++ fill value ps := rfl

@[simp] theorem fill_append (ps qs : List Piece) :
    fill value (ps ++ qs) = fill value ps ++ fill value qs :=
  List.flatMap_append

end Fill

/-! ## Placeholders -/

theorem Slot.mem_all (q : Slot) : q ∈ all := by
  cases q <;> decide

/-- A brace opens a placeholder and stands nowhere else in it. -/
theorem Slot.exists_written_eq (q : Slot) :
    ∃ body, q.written = '\x7b' :: body ∧ '\x7b' ∉ body := by
  cases q
  · exact ⟨_, rfl, by decide⟩
  · exact ⟨_, rfl, by decide⟩
  · exact ⟨_, rfl, by decide⟩

theorem Slot.eq_of_prefix {q r : Slot} {s : Text} (hq : q.written <+: s) (hr : r.written <+: s) :
    q = r := by
  have hapart : ∀ q ∈ all, ∀ r ∈ all, q.written <+: r.written → q = r := by decide
  rcases List.prefix_or_prefix_of_prefix hq hr with h | h
  · exact hapart q q.mem_all r r.mem_all h
  · exact (hapart r r.mem_all q q.mem_all h).symm

/-- At most one placeholder stands at a place, so the first one found is the only one. -/
theorem slotAt?_eq_some_iff {q : Slot} {s : Text} : slotAt? s = some q ↔ q.written <+: s := by
  constructor
  · intro h
    have hfound := List.find?_some h
    exact List.isPrefixOf_iff_prefix.mp hfound
  · intro h
    cases hslot : slotAt? s with
    | none =>
        have hnone := List.find?_eq_none.mp hslot q q.mem_all
        exact absurd (List.isPrefixOf_iff_prefix.mpr h) hnone
    | some r =>
        have hfound := List.find?_some hslot
        rw [Slot.eq_of_prefix (List.isPrefixOf_iff_prefix.mp hfound) h]

theorem slotAt?_eq_none_iff {s : Text} : slotAt? s = none ↔ ∀ q : Slot, ¬ q.written <+: s := by
  rw [Option.eq_none_iff_forall_ne_some]
  simp only [ne_eq, slotAt?_eq_some_iff]

/-! ## Reading a template -/

theorem fill_piecesFrom (skip : ℕ) (s : Text) :
    fill Slot.written (piecesFrom skip s) = s.drop skip := by
  induction s generalizing skip with
  | nil => cases skip <;> rfl
  | cons c s ih =>
      cases skip with
      | succ skip => exact ih skip
      | zero =>
          rw [piecesFrom]
          split
          · next q hslot =>
            obtain ⟨rest, hrest⟩ := slotAt?_eq_some_iff.mp hslot
            obtain ⟨body, hbody, -⟩ := q.exists_written_eq
            rw [hbody, List.cons_append] at hrest
            obtain ⟨rfl, rfl⟩ := List.cons.inj hrest
            rw [fill_slot, ih, hbody]
            simp
          · rw [fill_letter, ih]
            rfl

/-- With its placeholders put back, a template is as it was. -/
theorem fill_pieces (template : Text) : fill Slot.written (pieces template) = template :=
  fill_piecesFrom 0 template

/-- No placeholder begins where a template is read as a letter. -/
theorem not_prefix_of_piecesFrom_eq {skip : ℕ} {s : Text} {front back : List Piece} {c : Char}
    (h : piecesFrom skip s = front ++ .letter c :: back) (q : Slot) :
    ¬ q.written <+: c :: fill Slot.written back := by
  induction s generalizing skip front with
  | nil => cases skip <;> simp [piecesFrom] at h
  | cons d s ih =>
      cases skip with
      | succ skip => exact ih h
      | zero =>
          rw [piecesFrom] at h
          split at h
          · cases front with
            | nil => cases h
            | cons x front => exact ih (List.cons.inj h).2
          · next hslot =>
            cases front with
            | nil =>
                obtain ⟨hletter, rfl⟩ := List.cons.inj h
                cases hletter
                rw [fill_piecesFrom]
                exact slotAt?_eq_none_iff.mp hslot q
            | cons x front => exact ih (List.cons.inj h).2

/-! ## Placeholders that come up -/

/-- A placeholder stands in a part of a filled template that does not have its slot. -/
def ComesUp (value : Slot → Text) (q : Slot) (ps : List Piece) : Prop :=
  ∃ part, part <:+: ps ∧ .slot q ∉ part ∧ q.written <:+: fill value part

/-- A placeholder does not come up from letters where none begins and from slots that hold no brace
or still hold a placeholder of their own. -/
theorem not_infix_fill {value : Slot → Text} {q : Slot} {part : List Piece}
    (hslot : ∀ r, .slot r ∈ part → '\x7b' ∉ value r ∨ value r = r.written ∧ r ≠ q)
    (hletter : ∀ front c back, part = front ++ .letter c :: back →
      ¬ q.written <+: c :: fill value back) :
    ¬ q.written <:+: fill value part := by
  obtain ⟨body, hbody, -⟩ := q.exists_written_eq
  induction part with
  | nil => simp [hbody]
  | cons x part ih =>
      have hrest : ¬ q.written <:+: fill value part :=
        ih (fun r hr ↦ hslot r (List.mem_cons_of_mem x hr))
          fun front c back heq ↦ hletter (x :: front) c back (heq ▸ rfl)
      intro h
      cases x with
      | letter c =>
          rw [fill_letter, List.infix_cons_iff] at h
          exact h.elim (hletter [] c part rfl) hrest
      | slot r =>
          rw [fill_slot] at h
          rcases hslot r List.mem_cons_self with hvalue | ⟨hvalue, hne⟩
          · rw [hbody] at h hrest
            exact hrest (Text.infix_of_infix_append hvalue h)
          · -- A placeholder of another slot is not this one, and no brace in it opens this one.
            obtain ⟨other, hother, hmark⟩ := r.exists_written_eq
            rw [hvalue, hother, List.cons_append, List.infix_cons_iff] at h
            rcases h with hprefix | hinner
            · have hown : r.written <+: '\x7b' :: (other ++ fill value part) := by
                rw [hother]
                exact List.prefix_append _ _
              exact hne (Slot.eq_of_prefix hown hprefix)
            · rw [hbody] at hinner hrest
              exact hrest (Text.infix_of_infix_append hmark hinner)

/-- Nothing comes up in a template as it is written. -/
theorem not_comesUp_written (template : Text) (q : Slot) :
    ¬ ComesUp Slot.written q (pieces template) := by
  rintro ⟨part, ⟨above, below, hpieces⟩, hnot, h⟩
  have hother : ∀ r, .slot r ∈ part → r ≠ q := by
    rintro r hr rfl
    exact hnot hr
  refine not_infix_fill (fun r hr ↦ .inr ⟨rfl, hother r hr⟩) ?_ h
  rintro front c back rfl hprefix
  have hwhole : piecesFrom 0 template = (above ++ front) ++ .letter c :: (back ++ below) := by
    rw [← pieces, ← hpieces]
    simp
  apply not_prefix_of_piecesFrom_eq hwhole q
  rw [fill_append, ← List.cons_append]
  exact hprefix.trans (List.prefix_append _ _)

/-! ## One placeholder after the other -/

theorem fill_congr {value value' : Slot → Text} {ps : List Piece}
    (h : ∀ q, .slot q ∈ ps → value q = value' q) : fill value ps = fill value' ps := by
  induction ps with
  | nil => rfl
  | cons x ps ih =>
      have hrest := ih fun q hq ↦ h q (List.mem_cons_of_mem x hq)
      cases x with
      | letter c => rw [fill_letter, fill_letter, hrest]
      | slot q => rw [fill_slot, fill_slot, hrest, h q List.mem_cons_self]

theorem replace_fill_append {v w : Slot → Text} {q : Slot} (hq : v q = q.written)
    (hother : ∀ r, r ≠ q → v r = w r) {f ps : List Piece} (hf : .slot q ∉ f)
    (h : ¬ ComesUp v q (f ++ ps)) :
    Text.replace q.written (w q) (fill v f ++ fill v ps) =
      fill v f ++ fill w ps := by
  obtain ⟨body, hbody, hmark⟩ := q.exists_written_eq
  -- `f` is what stands between the last placeholder that was replaced and the pieces still ahead: a
  -- placeholder in it would have come up, and one that is ahead cannot begin in it.
  induction ps generalizing f with
  | nil =>
      have hclean : ¬ q.written <:+: fill v f :=
        fun hin ↦ h ⟨f, by simp, hf, hin⟩
      simpa using Text.replace_eq_self hclean (w q)
  | cons x ps ih =>
      by_cases hx : x = .slot q
      · subst hx
        have hclean : ¬ q.written <:+: fill v f :=
          fun hin ↦ h ⟨f, (List.prefix_append _ _).isInfix, hf, hin⟩
        have hlater : ¬ ComesUp v q ([] ++ ps) := by
          rintro ⟨part, hpart, hnot, hin⟩
          refine h ⟨part, hpart.trans ?_, hnot, hin⟩
          exact ((List.suffix_cons _ _).trans (List.suffix_append _ _)).isInfix
        have hrest := ih (f := []) List.not_mem_nil hlater
        rw [fill_slot, fill_slot, hq, hbody]
        rw [hbody] at hclean hrest
        rw [Text.replace_append hmark hclean]
        simpa using hrest
      · have hnext : .slot q ∉ f ++ [x] := by
          simp [hf, Ne.symm hx]
        have hstep := ih hnext (by simpa using h)
        have hsame : fill w [x] = fill v [x] := by
          refine (fill_congr fun r hr ↦ hother r ?_).symm
          rintro rfl
          exact hx (List.mem_singleton.mp hr).symm
        have hcons : ∀ u, fill u (x :: ps) = fill u [x] ++ fill u ps := fun u ↦ fill_append u [x] ps
        rw [hcons v, hcons w, hsame, ← List.append_assoc, ← List.append_assoc,
          ← fill_append, hstep]

/-- Replacing a placeholder in a filled template fills its slot, if the placeholder comes up nowhere
else. -/
theorem replace_fill {v w : Slot → Text} {q : Slot} (hq : v q = q.written)
    (hother : ∀ r, r ≠ q → v r = w r) {ps : List Piece} (h : ¬ ComesUp v q ps) :
    Text.replace q.written (w q) (fill v ps) = fill w ps :=
  replace_fill_append hq hother (f := []) List.not_mem_nil h

/-- Replacing one placeholder is filling in its slot alone. -/
theorem replace_eq_substitute (q : Slot) (new template : Text) :
    Text.replace q.written new template =
      substitute (Function.update Slot.written q new) template := by
  have hfill := replace_fill (w := Function.update Slot.written q new) rfl
    (fun r hr ↦ (Function.update_of_ne hr _ _).symm) (not_comesUp_written template q)
  rwa [fill_pieces, Function.update_self] at hfill

def values (requestNamespace entity action : Text) : Slot → Text
  | .requestNamespace => requestNamespace
  | .entity => entity
  | .action => action

/-- No placeholder that the template does not have comes up while it is expanded: none of the
entity once the namespace is filled in, and none of the action once the entity is as well. -/
structure FillsCleanly (requestNamespace entity template : Text) : Prop where
  withNamespace : ¬ ComesUp (values requestNamespace Slot.entity.written Slot.action.written)
    .entity (pieces template)
  withEntity : ¬ ComesUp (values requestNamespace entity Slot.action.written)
    .action (pieces template)

/-- The passes together are one simultaneous substitution, if the template is filled cleanly. -/
theorem expand_eq_substitute {requestNamespace entity template : Text}
    (h : FillsCleanly requestNamespace entity template) (action : Text) :
    expand requestNamespace entity action template =
      substitute (values requestNamespace entity action) template := by
  set ps := pieces template with hps
  let first := values requestNamespace Slot.entity.written Slot.action.written
  let second := values requestNamespace entity Slot.action.written
  have hnamespace : Text.replace (placeholder "namespace") requestNamespace template =
      fill first ps := by
    have hfill := replace_fill (w := first) (q := .requestNamespace) rfl
      (fun r hr ↦ by cases r <;> trivial) (not_comesUp_written template .requestNamespace)
    rwa [fill_pieces] at hfill
  have hentity : Text.replace (placeholder "entity") entity (fill first ps) = fill second ps :=
    replace_fill (v := first) (w := second) (q := .entity) rfl
      (fun r hr ↦ by cases r <;> trivial) h.withNamespace
  have haction : Text.replace (placeholder "action") action (fill second ps) =
      fill (values requestNamespace entity action) ps :=
    replace_fill (v := second) (w := values requestNamespace entity action)
      (q := .action) rfl (fun r hr ↦ by cases r <;> trivial) h.withEntity
  calc expand requestNamespace entity action template
      = Text.replace (placeholder "action") action
          (Text.replace (placeholder "entity") entity (fill first ps)) := by
        rw [expand, hnamespace]
    _ = Text.replace (placeholder "action") action (fill second ps) := by rw [hentity]
    _ = fill (values requestNamespace entity action) ps := haction

def withNamespace (requestNamespace template : Text) : Text :=
  substitute (Function.update Slot.written .requestNamespace requestNamespace) template

/-- No placeholder of the action comes up from the entity, whatever the namespace has brought in. -/
def EntityStays (requestNamespace entity template : Text) : Prop :=
  ¬ ComesUp (Function.update Slot.written .entity entity) .action
    (pieces (withNamespace requestNamespace template))

theorem slot_mem_pieces {template : Text} {q : Slot} (h : q.written <:+: template) :
    .slot q ∈ pieces template := by
  by_contra hnot
  apply not_comesUp_written template q
  refine ⟨pieces template, List.infix_rfl, hnot, ?_⟩
  rwa [fill_pieces]

theorem infix_fill_of_mem (value : Slot → Text) {q : Slot} {ps : List Piece} (h : .slot q ∈ ps) :
    value q <:+: fill value ps := by
  obtain ⟨front, back, rfl⟩ := List.append_of_mem h
  rw [fill_append, fill_slot]
  exact (List.prefix_append _ _).isInfix.trans (List.suffix_append _ _).isInfix

/-- Without any condition, each pass is a substitution for its own placeholder in the text so far.
-/
theorem expand_eq_passes (requestNamespace entity action template : Text) :
    expand requestNamespace entity action template =
      substitute (Function.update Slot.written .action action)
        (substitute (Function.update Slot.written .entity entity)
          (withNamespace requestNamespace template)) := by
  rw [withNamespace, ← replace_eq_substitute, ← replace_eq_substitute, ← replace_eq_substitute]
  rfl

/-- The placeholder of the entity is still there when the namespace is filled in, and what takes its
place is still there at the end if no placeholder that the last pass meets reaches into it. -/
theorem infix_expand {requestNamespace entity template : Text}
    (hmentions : Slot.entity.written <:+: template)
    (h : EntityStays requestNamespace entity template) (action : Text) :
    entity <:+: expand requestNamespace entity action template := by
  let first := Function.update Slot.written .requestNamespace requestNamespace
  let second := Function.update Slot.written .entity entity
  let third := Function.update second .action action
  set between := withNamespace requestNamespace template
  have hkept : .slot .entity ∈ pieces between :=
    slot_mem_pieces (infix_fill_of_mem first (slot_mem_pieces hmentions))
  have haction : Text.replace Slot.action.written action (fill second (pieces between)) =
      fill third (pieces between) :=
    replace_fill (v := second) (w := third) (q := .action) rfl
      (fun r hr ↦ (Function.update_of_ne hr _ _).symm) h
  rw [expand_eq_passes, ← replace_eq_substitute .action, substitute, haction]
  exact infix_fill_of_mem third hkept

/-! ## Texts without the brace of a placeholder -/

/-- Nothing comes up where no value and no letter is the brace that opens a placeholder. -/
theorem not_comesUp_of_notMem {value : Slot → Text} {q : Slot} {ps : List Piece}
    (hslot : ∀ r, r ≠ q → '\x7b' ∉ value r ∨ value r = r.written)
    (hletter : .letter '\x7b' ∉ ps) : ¬ ComesUp value q ps := by
  rintro ⟨part, hpart, hnot, h⟩
  refine not_infix_fill ?_ ?_ h
  · intro r hr
    have hne : r ≠ q := by
      rintro rfl
      exact hnot hr
    exact (hslot r hne).imp_right fun hvalue ↦ ⟨hvalue, hne⟩
  · rintro front c back rfl hprefix
    obtain ⟨body, hbody, -⟩ := q.exists_written_eq
    rw [hbody, List.cons_prefix_cons] at hprefix
    obtain rfl := hprefix.1
    exact hletter (hpart.subset (by simp))

theorem piecesFrom_eq_pieces (skip : ℕ) (s : Text) : piecesFrom skip s = pieces (s.drop skip) := by
  induction s generalizing skip with
  | nil => cases skip <;> rfl
  | cons c s ih =>
      cases skip with
      | zero => rfl
      | succ skip => exact ih skip

theorem pieces_written_append (q : Slot) (s : Text) :
    pieces (q.written ++ s) = .slot q :: pieces s := by
  obtain ⟨body, hbody, -⟩ := q.exists_written_eq
  have hslot : slotAt? ('\x7b' :: (body ++ s)) = some q := by
    rw [slotAt?_eq_some_iff, hbody, ← List.cons_append]
    exact List.prefix_append _ _
  rw [hbody, List.cons_append, pieces, piecesFrom, hslot]
  simp [piecesFrom_eq_pieces, hbody]

theorem pieces_cons {c : Char} (hc : c ≠ '\x7b') (s : Text) :
    pieces (c :: s) = .letter c :: pieces s := by
  have hslot : slotAt? (c :: s) = none := by
    rw [slotAt?_eq_none_iff]
    intro q hprefix
    obtain ⟨body, hbody, -⟩ := q.exists_written_eq
    rw [hbody, List.cons_prefix_cons] at hprefix
    exact hc hprefix.1.symm
  rw [pieces, piecesFrom, hslot]
  rfl

theorem letter_notMem_pieces_append {s t : Text} (hs : '\x7b' ∉ s)
    (ht : .letter '\x7b' ∉ pieces t) : .letter '\x7b' ∉ pieces (s ++ t) := by
  induction s with
  | nil => exact ht
  | cons c s ih =>
      obtain ⟨hc, hs⟩ := not_or.mp (mt List.mem_cons.mpr hs)
      rw [List.cons_append, pieces_cons (Ne.symm hc)]
      simp [hc, ih hs]

theorem letter_notMem_pieces_fill {value : Slot → Text} {ps : List Piece}
    (hslot : ∀ q, '\x7b' ∉ value q ∨ value q = q.written) (hletter : .letter '\x7b' ∉ ps) :
    .letter '\x7b' ∉ pieces (fill value ps) := by
  induction ps with
  | nil => exact List.not_mem_nil
  | cons x ps ih =>
      obtain ⟨hx, hps⟩ := not_or.mp (mt List.mem_cons.mpr hletter)
      cases x with
      | letter c =>
          have hc : '\x7b' ∉ [c] := by simpa using hx
          exact letter_notMem_pieces_append hc (ih hps)
      | slot q =>
          rw [fill_slot]
          rcases hslot q with hvalue | hvalue
          · exact letter_notMem_pieces_append hvalue (ih hps)
          · rw [hvalue, pieces_written_append]
            simp [ih hps]

section NoBrace

variable {requestNamespace entity template : Text} (hnamespace : '\x7b' ∉ requestNamespace)
  (hentity : '\x7b' ∉ entity) (hletter : .letter '\x7b' ∉ pieces template)

include hnamespace hentity hletter

/-- A template is filled cleanly if no opening brace is in the values or among its letters. -/
theorem fillsCleanly_of_notMem : FillsCleanly requestNamespace entity template where
  withNamespace := by
    apply not_comesUp_of_notMem _ hletter
    rintro (_ | _ | _) _
    · exact .inl hnamespace
    · exact .inr rfl
    · exact .inr rfl
  withEntity := by
    apply not_comesUp_of_notMem _ hletter
    rintro (_ | _ | _) hne
    · exact .inl hnamespace
    · exact .inl hentity
    · exact .inr rfl

theorem entityStays_of_notMem : EntityStays requestNamespace entity template := by
  have hbetween : .letter '\x7b' ∉ pieces (withNamespace requestNamespace template) := by
    apply letter_notMem_pieces_fill _ hletter
    rintro (_ | _ | _)
    · exact .inl hnamespace
    · exact .inr rfl
    · exact .inr rfl
  apply not_comesUp_of_notMem _ hbetween
  rintro (_ | _ | _) _
  · exact .inr rfl
  · exact .inl hentity
  · exact .inr rfl

end NoBrace

/-! ## The names of request types -/

/-- There is one name for each template, in order: the namespace, the entity and the action are
filled in one after the other, each in all of the text that is there by then.  Where no placeholder
comes up on the way, that is the template with the values in the place of its placeholders and of
nothing else.  With an accepted configuration the entity stands in every name where it stays or
nothing comes up, and both are so if there is no brace in a value or beside the placeholders. -/
theorem possibleRequests_eq_substitute (requestNamespace entity action : Text) :
    (∀ naming : RequestNaming, List.Forall₂
        (fun template name ↦
          name = substitute (Function.update Slot.written .action (WordCase.upperCamel action))
              (substitute (Function.update Slot.written .entity (TypeName.short entity))
                (withNamespace requestNamespace template)) ∧
            (FillsCleanly requestNamespace (TypeName.short entity) template →
              name = substitute (values requestNamespace (TypeName.short entity)
                (WordCase.upperCamel action)) template))
        naming.templates (naming.possibleRequests requestNamespace entity action)) ∧
      (∀ config : Config, config.isValid = true → List.Forall₂
        (fun template name ↦
          EntityStays requestNamespace (TypeName.short entity) template ∨
              FillsCleanly requestNamespace (TypeName.short entity) template →
            TypeName.short entity <:+: name)
        config.requestTemplates
        (config.naming.possibleRequests requestNamespace entity action)) ∧
      ∀ template, '\x7b' ∉ requestNamespace → '\x7b' ∉ TypeName.short entity →
        .letter '\x7b' ∉ pieces template →
        EntityStays requestNamespace (TypeName.short entity) template ∧
          FillsCleanly requestNamespace (TypeName.short entity) template := by
  refine ⟨?_, ?_, ?_⟩
  · intro naming
    rw [possibleRequests, List.forall₂_map_right_iff, List.forall₂_same]
    intro template _
    exact ⟨expand_eq_passes _ _ _ _, fun h ↦ expand_eq_substitute h _⟩
  · intro config hvalid
    rw [possibleRequests, List.forall₂_map_right_iff]
    change List.Forall₂ _ config.requestTemplates config.requestTemplates
    rw [List.forall₂_same]
    intro template htemplate h
    have hmentions : Slot.entity.written <:+: template :=
      Text.mentions_iff.mp (List.all_eq_true.mp hvalid template htemplate)
    rcases h with hstays | hclean
    · exact infix_expand hmentions hstays _
    · rw [expand_eq_substitute hclean]
      exact infix_fill_of_mem
        (values requestNamespace (TypeName.short entity) (WordCase.upperCamel action))
        (slot_mem_pieces hmentions)
  · intro template hnamespace hentity hletter
    exact ⟨entityStays_of_notMem hnamespace hentity hletter,
      fillsCleanly_of_notMem hnamespace hentity hletter⟩

/-- The entity brings in the placeholder of the action. -/
theorem possibleRequests_placeholderInEntity :
    let config : Config :=
      { Config.standard with requestTemplates := ["\x7bnamespace\x7d\\\x7bentity\x7d".toList] }
    let entity := "Models\\\x7baction\x7dLog".toList
    config.isValid = true ∧
      config.naming.possibleRequests "App".toList entity "create".toList =
        ["App\\CreateLog".toList] ∧
      config.requestTemplates.map (substitute (values "App".toList (TypeName.short entity)
          (WordCase.upperCamel "create".toList))) = ["App\\\x7baction\x7dLog".toList] ∧
      ¬ TypeName.short entity <:+: "App\\CreateLog".toList := by
  decide +kernel

end RequestNaming

end EndpointDocs
