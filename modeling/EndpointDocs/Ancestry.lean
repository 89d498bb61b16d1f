import EndpointDocs.TypeInfo

/-!
# Ancestry

The walk along the ancestors of a type, over anything that tells what is known of types.  Names may
repeat and the ancestors may form cycles; the walk ends because there are finitely many types, so
that every name it can meet stands in the finite list of all names of their ancestors.
-/

namespace EndpointDocs

/-- What is known of types by name.  A type may be found under any number of names, but there are
finitely many types. -/
structure Reflection where
  info? : Text → Option TypeInfo
  /-- All that is known. -/
  infos : List TypeInfo
  mem_infos_of_info? : ∀ name info, info? name = some info → info ∈ infos

namespace Reflection

def parents (r : Reflection) (name : Text) : List Text :=
  match r.info? name with
  | some info => info.ancestors.map TypeName.canonical
  | none => []

def allParents (r : Reflection) : List Text :=
  r.infos.flatMap fun info ↦ info.ancestors.map TypeName.canonical

theorem parents_subset_allParents (r : Reflection) (name : Text) :
    ∀ parent ∈ r.parents name, parent ∈ r.allParents := by
  intro parent hparent
  unfold parents at hparent
  split at hparent
  · next info hinfo =>
    exact List.mem_flatMap.mpr ⟨info, r.mem_infos_of_info? name info hinfo, hparent⟩
  · simp at hparent

/-- How many names of a list have not been seen. -/
def unseen (names seen : List Text) : Nat :=
  names.countP fun name ↦ decide (name ∉ seen)

theorem unseen_cons_le (names seen : List Text) (name : Text) :
    unseen names (name :: seen) ≤ unseen names seen :=
  List.countP_mono_left fun other _ h ↦ by simp_all

theorem unseen_cons_lt {names seen : List Text} {name : Text} (hmem : name ∈ names)
    (hnew : name ∉ seen) : unseen names (name :: seen) < unseen names seen := by
  induction names with
  | nil => simp at hmem
  | cons other names ih =>
    have hle := unseen_cons_le names seen name
    simp only [unseen, List.countP_cons] at hle ih ⊢
    by_cases heq : other = name
    · subst heq
      simp [hnew] at hle ⊢
      omega
    · have hlt := ih (by simpa [Ne.symm heq] using hmem)
      by_cases h : other ∈ seen <;> simp_all

/-- Walks from the pending names along the ancestors of names not yet seen, until `base` is met. -/
def walk (r : Reflection) (names : List Text) (base : Text) (seen pending : List Text)
    (hnames : ∀ parent ∈ r.allParents, parent ∈ names)
    (hpending : ∀ name ∈ pending, name ∈ names) : Bool :=
  match pending with
  | [] => false
  | name :: others =>
    if hseen : name ∈ seen then
      walk r names base seen others hnames fun n hn ↦ hpending n (List.mem_cons_of_mem _ hn)
    else if base ∈ r.parents name then true
    else
      walk r names base (name :: seen) ((r.parents name).reverse ++ others) hnames
        fun n hn ↦ by
          rcases List.mem_append.mp hn with h | h
          · exact hnames n (r.parents_subset_allParents name n (List.mem_reverse.mp h))
          · exact hpending n (List.mem_cons_of_mem _ h)
termination_by (unseen names seen, pending.length)
decreasing_by
  · exact Prod.Lex.right _ (Nat.lt_succ_self _)
  · exact Prod.Lex.left _ _ (unseen_cons_lt (hpending name List.mem_cons_self) hseen)

/-- Whether `base` is met on the way up from a type.  A type is its own subtype only by a cycle. -/
def isSubtype (r : Reflection) (name base : Text) : Bool :=
  let start := TypeName.canonical name
  r.walk (start :: r.allParents) (TypeName.canonical base) [] [start]
    (fun _ h ↦ List.mem_cons_of_mem _ h) (by simp)

end Reflection

namespace TypeTable

def reflection (types : TypeTable) : Reflection where
  info? := types.info?
  infos := types.map Prod.snd
  mem_infos_of_info? name info h := by
    obtain ⟨front, back, hsplit, -⟩ := List.lookup_eq_some_iff.mp h
    simp [hsplit]

@[simp] theorem reflection_info? (types : TypeTable) :
    types.reflection.info? = types.info? := rfl

def parents (types : TypeTable) (name : Text) : List Text :=
  types.reflection.parents name

def isSubtype (types : TypeTable) (name base : Text) : Bool :=
  types.reflection.isSubtype name base

end TypeTable

end EndpointDocs
