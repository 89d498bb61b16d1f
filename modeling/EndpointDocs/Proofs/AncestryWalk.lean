import EndpointDocs.Ancestry
import Mathlib.Data.Finset.Card
import Mathlib.Data.List.Perm.Basic
import Mathlib.Logic.Relation

/-!
# Walks along the ancestors

A walk may take any pending name next and put the parents of that name back in any order.  Whatever
it takes, it comes to an end, and what it comes to is whether a chain of parents leads from the type
it started at to the name it looks for.  Taking the last pending name first is one of these walks.
-/

namespace EndpointDocs.Reflection

open Relation

variable {r : Reflection} {base start : Text}

/-- The canonical form of an ancestor of a type is a parent of the name that the type is found
under. -/
def IsParent (r : Reflection) (child parent : Text) : Prop :=
  ∃ info, r.info? child = some info ∧
    ∃ ancestor ∈ info.ancestors, TypeName.canonical ancestor = parent

theorem mem_parents_iff (r : Reflection) (child parent : Text) :
    parent ∈ r.parents child ↔ r.IsParent child parent := by
  unfold parents IsParent
  cases r.info? child with
  | none => simp
  | some info => simp

/-- A walk under way. -/
structure Walk where
  seen : List Text
  pending : List Text

/-- A turn in the search for a name.  Some pending name is taken; it is dropped when it has been
seen, and its parents become pending when it is new and the name searched is not among them. -/
inductive Turn (r : Reflection) (base : Text) : Walk → Walk → Prop
  | again {seen pending others : List Text} {name : Text}
      (hnext : pending.Perm (name :: others)) (hseen : name ∈ seen) :
      Turn r base ⟨seen, pending⟩ ⟨seen, others⟩
  | onward {seen pending others later : List Text} {name : Text}
      (hnext : pending.Perm (name :: others)) (hnew : name ∉ seen)
      (hbase : ¬ r.IsParent name base) (hlater : later.Perm (r.parents name ++ others)) :
      Turn r base ⟨seen, pending⟩ ⟨name :: seen, later⟩

/-- What the search comes to: the name is met among the parents of a new one, or nothing is left
to take. -/
inductive Ends (r : Reflection) (base : Text) : Walk → Bool → Prop
  | met {seen pending others : List Text} {name : Text}
      (hnext : pending.Perm (name :: others)) (hnew : name ∉ seen)
      (hbase : r.IsParent name base) : Ends r base ⟨seen, pending⟩ true
  | exhausted {seen : List Text} : Ends r base ⟨seen, []⟩ false

/-! ## Every walk ends -/

/-- The names that a walk can still see for the first time. -/
def Walk.ahead (r : Reflection) (w : Walk) : Finset Text :=
  (w.pending ++ r.allParents).toFinset \ w.seen.toFinset

theorem Walk.mem_ahead {w : Walk} {name : Text} :
    name ∈ w.ahead r ↔ (name ∈ w.pending ∨ name ∈ r.allParents) ∧ name ∉ w.seen := by
  simp [ahead]

/-- Seeing more, and adding only parents to what is pending, puts no new name ahead. -/
theorem Walk.ahead_subset {before after : Walk} (hseen : ∀ name ∈ before.seen, name ∈ after.seen)
    (hpending : ∀ name ∈ after.pending, name ∈ before.pending ∨ name ∈ r.allParents) :
    after.ahead r ⊆ before.ahead r := by
  intro name hname
  obtain ⟨hmem, hnew⟩ := mem_ahead.mp hname
  refine mem_ahead.mpr ⟨?_, fun h ↦ hnew (hseen name h)⟩
  rcases hmem with hmem | hparent
  · exact hpending name hmem
  · exact .inr hparent

/-- A turn leaves fewer names ahead, or no more of them and fewer names pending. -/
theorem wellFounded_turn (r : Reflection) (base : Text) :
    WellFounded fun after before ↦ r.Turn base before after := by
  let measure (w : Walk) : ℕ × ℕ := ((w.ahead r).card, w.pending.length)
  refine Subrelation.wf (r := InvImage (Prod.Lex (· < ·) (· < ·)) measure) ?_
    (InvImage.wf measure (Prod.lex Nat.lt_wfRel Nat.lt_wfRel).wf)
  intro after before h
  cases h with
  | @again seen pending others name hnext hseen =>
      have hsubset : Walk.ahead r ⟨seen, others⟩ ⊆ Walk.ahead r ⟨seen, pending⟩ :=
        Walk.ahead_subset (fun _ h ↦ h)
          fun _ h ↦ .inl (hnext.mem_iff.mpr (List.mem_cons_of_mem _ h))
      refine Prod.Lex.right' _ (Finset.card_le_card hsubset) ?_
      simp [hnext.length_eq]
  | @onward seen pending others later name hnext hnew hbase hlater =>
      have hsubset : Walk.ahead r ⟨name :: seen, later⟩ ⊆ Walk.ahead r ⟨seen, pending⟩ := by
        refine Walk.ahead_subset (fun _ h ↦ List.mem_cons_of_mem _ h) ?_
        intro other hother
        rcases List.mem_append.mp (hlater.mem_iff.mp hother) with hparent | hother
        · exact .inr (r.parents_subset_allParents name other hparent)
        · exact .inl (hnext.mem_iff.mpr (List.mem_cons_of_mem _ hother))
      have htaken : name ∈ Walk.ahead r ⟨seen, pending⟩ :=
        Walk.mem_ahead.mpr ⟨.inl (hnext.mem_iff.mpr List.mem_cons_self), hnew⟩
      have hgone : name ∉ Walk.ahead r ⟨name :: seen, later⟩ :=
        fun h ↦ (Walk.mem_ahead.mp h).2 List.mem_cons_self
      have hfewer := (Finset.ssubset_iff_of_subset hsubset).mpr ⟨name, htaken, hgone⟩
      exact Prod.Lex.left _ _ (Finset.card_lt_card hfewer)

/-- No walk is stuck. -/
theorem exists_turn_or_ends (r : Reflection) (base : Text) (w : Walk) :
    (∃ after, r.Turn base w after) ∨ ∃ answer, r.Ends base w answer := by
  obtain ⟨seen, pending⟩ := w
  cases pending with
  | nil => exact .inr ⟨false, .exhausted⟩
  | cons name others =>
      by_cases hseen : name ∈ seen
      · exact .inl ⟨_, .again (.refl _) hseen⟩
      · by_cases hbase : r.IsParent name base
        · exact .inr ⟨true, .met (.refl _) hseen hbase⟩
        · exact .inl ⟨_, .onward (.refl _) hseen hbase (.refl _)⟩

/-! ## What a walk comes to -/

/-- What is true of a search all along: it stays among the names that lead up from the start, and
whatever leads up from a seen name is seen or pending and is not the name searched. -/
structure Searches (r : Reflection) (base start : Text) (w : Walk) : Prop where
  start_known : start ∈ w.seen ∨ start ∈ w.pending
  leads : ∀ name, name ∈ w.seen ∨ name ∈ w.pending → ReflTransGen r.IsParent start name
  closed : ∀ name ∈ w.seen, ∀ parent, r.IsParent name parent →
    parent ≠ base ∧ (parent ∈ w.seen ∨ parent ∈ w.pending)

theorem searches_start (r : Reflection) (base start : Text) :
    r.Searches base start ⟨[], [start]⟩ where
  start_known := .inr List.mem_cons_self
  leads := by
    rintro name (hseen | hpending)
    · cases hseen
    · obtain rfl := List.mem_singleton.mp hpending
      exact .refl
  closed := by
    intro name hseen
    cases hseen

/-- A turn keeps what is true of the search: what leads up from a seen name stays seen or pending.
-/
theorem Searches.turn {before after : Walk} (h : r.Searches base start before)
    (hturn : r.Turn base before after) : r.Searches base start after := by
  cases hturn with
  | @again seen pending others name hnext hseen =>
      -- The name that is dropped is still known, because it has been seen.
      have hknown (other : Text) (hother : other ∈ seen ∨ other ∈ pending) :
          other ∈ seen ∨ other ∈ others := by
        rcases hother with hother | hother
        · exact .inl hother
        · rcases List.mem_cons.mp (hnext.mem_iff.mp hother) with rfl | hother
          · exact .inl hseen
          · exact .inr hother
      have hpending (other : Text) (hother : other ∈ others) : other ∈ pending :=
        hnext.mem_iff.mpr (List.mem_cons_of_mem _ hother)
      refine ⟨hknown start h.start_known, ?_, ?_⟩
      · intro other hother
        exact h.leads other (hother.imp_right (hpending other))
      · intro child hchild parent hparent
        obtain ⟨hne, hmem⟩ := h.closed child hchild parent hparent
        exact ⟨hne, hknown parent hmem⟩
  | @onward seen pending others later name hnext hnew hbase hlater =>
      have hknown (other : Text) (hother : other ∈ seen ∨ other ∈ pending) :
          other ∈ name :: seen ∨ other ∈ later := by
        rcases hother with hother | hother
        · exact .inl (List.mem_cons_of_mem _ hother)
        · rcases List.mem_cons.mp (hnext.mem_iff.mp hother) with rfl | hother
          · exact .inl List.mem_cons_self
          · exact .inr (hlater.mem_iff.mpr (List.mem_append_right _ hother))
      have hname : ReflTransGen r.IsParent start name :=
        h.leads name (.inr (hnext.mem_iff.mpr List.mem_cons_self))
      refine ⟨hknown start h.start_known, ?_, ?_⟩
      · rintro other (hseen | hpending)
        · rcases List.mem_cons.mp hseen with rfl | hseen
          · exact hname
          · exact h.leads other (.inl hseen)
        · rcases List.mem_append.mp (hlater.mem_iff.mp hpending) with hparent | hpending
          · exact hname.tail ((r.mem_parents_iff name other).mp hparent)
          · exact h.leads other (.inr (hnext.mem_iff.mpr (List.mem_cons_of_mem _ hpending)))
      · intro child hchild parent hparent
        rcases List.mem_cons.mp hchild with rfl | hchild
        · refine ⟨fun heq ↦ hbase (heq ▸ hparent), .inr (hlater.mem_iff.mpr ?_)⟩
          exact List.mem_append_left _ ((r.mem_parents_iff child parent).mpr hparent)
        · obtain ⟨hne, hmem⟩ := h.closed child hchild parent hparent
          exact ⟨hne, hknown parent hmem⟩

theorem Searches.turns {before after : Walk} (h : r.Searches base start before)
    (hturns : ReflTransGen (r.Turn base) before after) : r.Searches base start after := by
  induction hturns with
  | refl => exact h
  | tail _ hturn ih => exact ih.turn hturn

/-- When the search ends, its answer is whether a chain of ancestors leads up to the name. -/
theorem Searches.ends {w : Walk} {answer : Bool} (h : r.Searches base start w)
    (hends : r.Ends base w answer) :
    answer = true ↔ TransGen r.IsParent start base := by
  cases hends with
  | met hnext hnew hbase =>
      have hname := h.leads _ (.inr (hnext.mem_iff.mpr List.mem_cons_self))
      exact iff_of_true rfl (TransGen.tail' hname hbase)
  | @exhausted seen =>
      -- With nothing pending, the seen names are closed under parents, and none has the base.
      have hseen (name : Text) (hname : ReflTransGen r.IsParent start name) : name ∈ seen := by
        induction hname with
        | refl => exact h.start_known.resolve_right List.not_mem_nil
        | tail _ hparent ih => exact (h.closed _ ih _ hparent).2.resolve_right List.not_mem_nil
      refine iff_of_false Bool.false_ne_true ?_
      intro hchain
      obtain ⟨name, hname, hbase⟩ := TransGen.tail'_iff.mp hchain
      exact (h.closed name (hseen name hname) base hbase).1 rfl

/-! ## The walk that takes the last pending name first -/

/-- The walk is a row of turns that ends, since all names that can come up are among `names`. -/
theorem exists_turns_walk (r : Reflection) (names : List Text) (base : Text)
    (seen pending : List Text) (hnames : ∀ parent ∈ r.allParents, parent ∈ names)
    (hpending : ∀ name ∈ pending, name ∈ names) :
    ∃ w, ReflTransGen (r.Turn base) ⟨seen, pending⟩ w ∧
      r.Ends base w (r.walk names base seen pending hnames hpending) := by
  fun_induction walk r names base seen pending hnames hpending with
  | case1 => exact ⟨_, .refl, .exhausted⟩
  | case2 seen name others _ hseen _ ih =>
      obtain ⟨w, hturns, hends⟩ := ih
      exact ⟨w, .head (.again (.refl _) hseen) hturns, hends⟩
  | case3 seen name others _ hnew hbase =>
      exact ⟨_, .refl, .met (.refl _) hnew ((r.mem_parents_iff name base).mp hbase)⟩
  | case4 seen name others _ hnew hbase _ ih =>
      obtain ⟨w, hturns, hends⟩ := ih
      have hnot : ¬ r.IsParent name base := fun h ↦ hbase ((r.mem_parents_iff name base).mpr h)
      have hlater := (List.reverse_perm (r.parents name)).append_right others
      exact ⟨w, .head (.onward (.refl _) hnew hnot hlater) hturns, hends⟩

theorem exists_turns_isSubtype (r : Reflection) (name base : Text) :
    ∃ w, ReflTransGen (r.Turn (TypeName.canonical base)) ⟨[], [TypeName.canonical name]⟩ w ∧
      r.Ends (TypeName.canonical base) w (r.isSubtype name base) :=
  r.exists_turns_walk _ _ _ _ _ _

/-- The answer to a subtype question is whether there is a chain of ancestors, of one step at least.
-/
theorem isSubtype_iff_transGen (r : Reflection) (name base : Text) :
    r.isSubtype name base = true ↔
      TransGen r.IsParent (TypeName.canonical name) (TypeName.canonical base) := by
  obtain ⟨w, hturns, hends⟩ := r.exists_turns_isSubtype name base
  exact ((r.searches_start _ _).turns hturns).ends hends

/-- The answer depends on no more than which names are parents of which. -/
theorem isSubtype_congr {other : Reflection}
    (h : ∀ child parent, other.IsParent child parent ↔ r.IsParent child parent)
    (name base : Text) : other.isSubtype name base = r.isSubtype name base := by
  have heq : other.IsParent = r.IsParent := by
    funext child parent
    exact propext (h child parent)
  rw [Bool.eq_iff_iff, isSubtype_iff_transGen, isSubtype_iff_transGen, heq]

/-- On any graph of types every walk comes to an end, in whatever order the pending names are taken
and the parents put back, and all walks for a type and a name come to the same answer, which is
given: whether a chain of parents, with at least one link, leads from the type to the name.  In
particular a type is its own subtype only by a cycle.  The order of ancestors and their repetition
do not matter. -/
theorem isSubtype_decides_chain (r : Reflection) (name base : Text) :
    WellFounded (fun after before ↦ r.Turn (TypeName.canonical base) before after) ∧
      (∀ w, (∃ after, r.Turn (TypeName.canonical base) w after) ∨
        ∃ answer, r.Ends (TypeName.canonical base) w answer) ∧
      (∀ answer, (∃ w, ReflTransGen (r.Turn (TypeName.canonical base))
          ⟨[], [TypeName.canonical name]⟩ w ∧ r.Ends (TypeName.canonical base) w answer) ↔
        answer = r.isSubtype name base) ∧
      (r.isSubtype name base = true ↔
        TransGen r.IsParent (TypeName.canonical name) (TypeName.canonical base)) ∧
      ∀ other : Reflection,
        (∀ child parent, other.IsParent child parent ↔ r.IsParent child parent) →
          other.isSubtype name base = r.isSubtype name base := by
  refine ⟨r.wellFounded_turn _, r.exists_turn_or_ends _, ?_, r.isSubtype_iff_transGen name base,
    fun other h ↦ isSubtype_congr h name base⟩
  intro answer
  constructor
  · rintro ⟨w, hturns, hends⟩
    have hchain := ((r.searches_start _ _).turns hturns).ends hends
    rw [Bool.eq_iff_iff, hchain, isSubtype_iff_transGen]
  · rintro rfl
    exact r.exists_turns_isSubtype name base

/-! ## Two types that are ancestors of each other -/

/-- An ancestor is spelled with a separator, and one is not declared. -/
def cycleTypes : TypeTable := [
  ("Post".toList, ⟨["Page".toList], [], none⟩),
  ("Page".toList, ⟨["\\Post".toList, "Form".toList], [], none⟩)]

/-- What is known, with the ancestors of every type in the opposite order. -/
def reversed (r : Reflection) : Reflection where
  info? name := (r.info? name).map fun info ↦ { info with ancestors := info.ancestors.reverse }
  infos := r.infos.map fun info ↦ { info with ancestors := info.ancestors.reverse }
  mem_infos_of_info? name info h := by
    obtain ⟨forward, hforward, rfl⟩ := Option.map_eq_some_iff.mp h
    exact List.mem_map_of_mem (r.mem_infos_of_info? name forward hforward)

theorem isParent_reversed (r : Reflection) (child parent : Text) :
    r.reversed.IsParent child parent ↔ r.IsParent child parent := by
  simp [IsParent, reversed]

theorem isSubtype_decides_chain_cycleTypes :
    let r := cycleTypes.reflection
    (∀ child parent, r.reversed.IsParent child parent ↔ r.IsParent child parent) ∧
      (∀ base, r.reversed.isSubtype "Post".toList base = r.isSubtype "Post".toList base) ∧
      r.isSubtype "Post".toList "\\Post".toList = true ∧
      r.isSubtype "Post".toList "Form".toList = true ∧
      r.isSubtype "Post".toList "Model".toList = false := by
  intro r
  have hsame (base : Text) := (r.isSubtype_decides_chain "Post".toList base).2.2.2.2 r.reversed
    r.isParent_reversed
  have hchain (base : Text) := (r.isSubtype_decides_chain "Post".toList base).2.2.2.1
  have hpage : r.IsParent "Post".toList "Page".toList :=
    (r.mem_parents_iff _ _).mp (by decide +kernel)
  have hpost : r.IsParent "Page".toList "Post".toList :=
    (r.mem_parents_iff _ _).mp (by decide +kernel)
  have hform : r.IsParent "Page".toList "Form".toList :=
    (r.mem_parents_iff _ _).mp (by decide +kernel)
  refine ⟨r.isParent_reversed, hsame, ?_, ?_, ?_⟩
  · exact (hchain _).mpr ((TransGen.single hpage).tail hpost)
  · exact (hchain _).mpr ((TransGen.single hpage).tail hform)
  · rw [Bool.eq_false_iff, ne_eq, hchain]
    intro hmodel
    obtain ⟨child, -, hparent⟩ := TransGen.tail'_iff.mp hmodel
    have hmem := r.parents_subset_allParents child _ ((r.mem_parents_iff _ _).mpr hparent)
    exact absurd hmem (by decide +kernel)

end EndpointDocs.Reflection
