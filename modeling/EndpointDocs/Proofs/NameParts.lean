import EndpointDocs.Proofs.TypeNames
import EndpointDocs.Resolution
import Mathlib.Data.List.DropRight

/-!
# The parts of a name

A name is cut at its last separator into a namespace and a short name, and the two are joined again.
They describe the type of the name as long as no separator follows the last segment.  Where one
does, the short name is that segment, and the namespace has it at its end as well.
-/

namespace EndpointDocs

namespace Text

variable {mark : Char} {s before after : Text}

theorem exists_eq_append_cons_notMem (h : mark ∈ s) :
    ∃ before after, s = before ++ mark :: after ∧ mark ∉ after := by
  obtain ⟨back, front, hsplit, hback⟩ := List.eq_append_cons_of_mem (List.mem_reverse.mpr h)
  refine ⟨front.reverse, back.reverse, ?_, by simpa using hback⟩
  rw [← List.reverse_reverse s, hsplit]
  simp

theorem forall_ne_of_notMem (h : mark ∉ s) : ∀ c ∈ s.reverse, (c != mark) = true := by
  intro c hc
  rw [bne_iff_ne]
  rintro rfl
  exact h (List.mem_reverse.mp hc)

theorem afterLast_of_notMem (h : mark ∉ s) : afterLast mark s = s := by
  rw [afterLast, List.takeWhile_eq_self_iff.mpr (forall_ne_of_notMem h), List.reverse_reverse]

theorem beforeLast?_of_notMem (h : mark ∉ s) : beforeLast? mark s = none := by
  rw [beforeLast?, List.dropWhile_eq_nil_iff.mpr (forall_ne_of_notMem h)]

theorem afterLast_append_cons (before : Text) (h : mark ∉ after) :
    afterLast mark (before ++ mark :: after) = after := by
  have hreverse : (before ++ mark :: after).reverse = after.reverse ++ mark :: before.reverse := by
    simp
  rw [afterLast, hreverse, List.takeWhile_append_of_pos (forall_ne_of_notMem h)]
  simp

theorem beforeLast?_append_cons (before : Text) (h : mark ∉ after) :
    beforeLast? mark (before ++ mark :: after) = some before := by
  have hreverse : (before ++ mark :: after).reverse = after.reverse ++ mark :: before.reverse := by
    simp
  rw [beforeLast?, hreverse, List.dropWhile_append_of_pos (forall_ne_of_notMem h)]
  simp

theorem notMem_afterLast (mark : Char) (s : Text) : mark ∉ afterLast mark s := by
  intro h
  have hne := List.mem_takeWhile_imp (List.mem_reverse.mp h)
  simp at hne

end Text

namespace TypeName

variable {name base : Text}

def within (space short : Text) : Text :=
  if space = [] then short else space ++ '\\' :: short

/-- The type that the namespace and the short name of a name describe. -/
def described (name : Text) : Text :=
  within (namespaceOf name) (short name)

/-- A name without the separators at either end. -/
def bare (name : Text) : Text :=
  Text.dropEndWhile isSeparator (name.dropWhile isSeparator)

/-- A separator follows the last segment of a name. -/
def SeparatorTrails (name : Text) : Prop :=
  name.getLast? = some '\\' ∧ ∃ c ∈ name, c ≠ '\\'

/-! ## Separators in front -/

theorem dropWhile_of_head (h : base.head? ≠ some '\\') : base.dropWhile isSeparator = base := by
  cases base with
  | nil => rfl
  | cons c base => exact List.dropWhile_cons_of_neg (by simpa [isSeparator] using h)

theorem exists_eq_rooted (name : Text) :
    ∃ n base, name = rooted n base ∧ base.head? ≠ some '\\' := by
  refine ⟨(name.takeWhile isSeparator).length, name.dropWhile isSeparator, ?_, ?_⟩
  · have hfront : name.takeWhile isSeparator =
        List.replicate (name.takeWhile isSeparator).length '\\' := by
      rw [List.eq_replicate_iff]
      refine ⟨rfl, ?_⟩
      intro c hc
      have hsep : isSeparator c = true := List.mem_takeWhile_imp hc
      exact eq_of_beq hsep
    rw [rooted, ← hfront]
    exact List.takeWhile_append_dropWhile.symm
  · intro hhead
    have hnot := List.head?_dropWhile_not isSeparator name
    rw [hhead] at hnot
    simp [isSeparator] at hnot

theorem dropWhile_rooted (n : ℕ) (h : base.head? ≠ some '\\') :
    (rooted n base).dropWhile isSeparator = base := by
  rw [rooted, List.dropWhile_append, dropWhile_replicate]
  exact dropWhile_of_head h

theorem described_rooted (n : ℕ) (name : Text) : described (rooted n name) = described name := by
  rw [described, described, namespaceOf_rooted, short_rooted]

theorem separatorTrails_rooted (n : ℕ) (h : base.head? ≠ some '\\') :
    SeparatorTrails (rooted n base) ↔ base.getLast? = some '\\' := by
  rw [SeparatorTrails, rooted]
  constructor
  · rintro ⟨hlast, c, hc, hne⟩
    rcases List.mem_append.mp hc with hc | hc
    · exact absurd (List.eq_of_mem_replicate hc) hne
    · rwa [List.getLast?_append_of_ne_nil _ (List.ne_nil_of_mem hc)] at hlast
  · intro hlast
    cases base with
    | nil => cases hlast
    | cons c base =>
        constructor
        · rwa [List.getLast?_append_of_ne_nil _ (List.cons_ne_nil c base)]
        · refine ⟨c, by simp, ?_⟩
          rintro rfl
          exact h rfl

/-! ## What the parts describe -/

theorem notMem_short (name : Text) : '\\' ∉ short name :=
  Text.notMem_afterLast _ _

theorem short_ne_nil {c : Char} (hc : c ∈ name) (hne : c ≠ '\\') : short name ≠ [] := by
  rw [short, Text.afterLast, Text.dropEndWhile, List.reverse_reverse]
  cases hkept : name.reverse.dropWhile isSeparator with
  | nil =>
      have hall := List.dropWhile_eq_nil_iff.mp hkept c (List.mem_reverse.mpr hc)
      exact absurd (eq_of_beq hall) hne
  | cons last front =>
      have hnot := List.head?_dropWhile_not isSeparator name.reverse
      rw [hkept] at hnot
      have hlast : last ≠ '\\' := by simpa [isSeparator] using hnot
      simp [hlast]

/-- The parts before and after the last separator make up the name. -/
theorem within_cut (h : base.head? ≠ some '\\') :
    within ((Text.beforeLast? '\\' base).getD []) (Text.afterLast '\\' base) = base := by
  by_cases hmem : '\\' ∈ base
  · obtain ⟨before, after, rfl, hafter⟩ := Text.exists_eq_append_cons_notMem hmem
    have hbefore : before ≠ [] := by
      rintro rfl
      exact h rfl
    rw [Text.beforeLast?_append_cons _ hafter, Text.afterLast_append_cons _ hafter]
    exact if_neg hbefore
  · rw [Text.beforeLast?_of_notMem hmem, Text.afterLast_of_notMem hmem]
    rfl

theorem dropEndWhile_of_last (h : base.getLast? ≠ some '\\') :
    Text.dropEndWhile isSeparator base = base := by
  apply List.rdropWhile_eq_self_iff.mpr
  intro hne hlast
  apply h
  rw [List.getLast?_eq_some_getLast hne, eq_of_beq hlast]

/-- The two parts of a name make up the name again, if no separator stands at either end. -/
theorem described_of_last (hhead : base.head? ≠ some '\\') (hlast : base.getLast? ≠ some '\\') :
    described base = base := by
  rw [described, namespaceOf, short, dropWhile_of_head hhead, dropEndWhile_of_last hlast]
  exact within_cut hhead

theorem namespaceOf_within {space word : Text} (hspace : space.head? ≠ some '\\')
    (hword : '\\' ∉ word) : namespaceOf (within space word) = space := by
  rw [within, namespaceOf]
  split
  · next hnil =>
    have hhead : word.head? ≠ some '\\' := fun h ↦ hword (List.mem_of_mem_head? h)
    rw [dropWhile_of_head hhead, Text.beforeLast?_of_notMem hword, hnil]
    rfl
  · next hne =>
    have hhead : (space ++ '\\' :: word).head? ≠ some '\\' := by
      rwa [List.head?_append_of_ne_nil _ hne]
    rw [dropWhile_of_head hhead, Text.beforeLast?_append_cons _ hword]
    rfl

theorem short_within (space : Text) {word : Text} (hne : word ≠ []) (hword : '\\' ∉ word) :
    short (within space word) = word := by
  have hlast : word.getLast? ≠ some '\\' := fun h ↦ hword (List.mem_of_mem_getLast? h)
  rw [within, short]
  split
  · rw [dropEndWhile_of_last hlast, Text.afterLast_of_notMem hword]
  · have hends : (space ++ '\\' :: word).getLast? ≠ some '\\' := by
      rwa [List.append_cons, List.getLast?_append_of_ne_nil _ hne]
    rw [dropEndWhile_of_last hends, Text.afterLast_append_cons _ hword]

/-- The namespace of a name with a separator at its end is all that stands before that separator. -/
theorem namespaceOf_concat {init : Text} (h : (init ++ ['\\']).head? ≠ some '\\') :
    namespaceOf (init ++ ['\\']) = init := by
  rw [namespaceOf, dropWhile_of_head h, Text.beforeLast?_append_cons _ List.not_mem_nil]
  rfl

theorem described_concat {init : Text} (h : (init ++ ['\\']).head? ≠ some '\\') :
    described (init ++ ['\\']) = init ++ ['\\'] ++ short (init ++ ['\\']) := by
  have hinit : init ≠ [] := by
    rintro rfl
    exact h rfl
  rw [described, namespaceOf_concat h, within, if_neg hinit, List.append_assoc,
    List.singleton_append]

theorem length_bare_concat_lt {init : Text} (h : (init ++ ['\\']).head? ≠ some '\\') :
    (bare (init ++ ['\\'])).length < (init ++ ['\\']).length := by
  have hdrop : bare (init ++ ['\\']) = Text.dropEndWhile isSeparator init := by
    rw [bare, dropWhile_of_head h]
    exact List.rdropWhile_concat_pos isSeparator init '\\' rfl
  have hle := (List.rdropWhile_prefix isSeparator (l := init)).length_le
  rw [hdrop, List.length_append]
  exact Nat.lt_succ_of_le hle

theorem bare_rooted (n : ℕ) (h : base.head? ≠ some '\\') : bare (rooted n base) = bare base := by
  rw [bare, bare, dropWhile_rooted n h, dropWhile_of_head h]

theorem exists_eq_concat (h : base.getLast? = some '\\') : ∃ init, base = init ++ ['\\'] := by
  obtain ⟨init, rfl⟩ := List.getLast?_eq_some_iff.mp h
  exact ⟨init, rfl⟩

theorem exists_mem_ne_of_head (hne : base ≠ []) (h : base.head? ≠ some '\\') :
    ∃ c ∈ base, c ≠ '\\' := by
  cases base with
  | nil => exact absurd rfl hne
  | cons c base =>
      refine ⟨c, List.mem_cons_self, ?_⟩
      rintro rfl
      exact h rfl

/-- The parts that a name is cut into are those of the type that they describe. -/
theorem parts_described (name : Text) :
    namespaceOf (described name) = namespaceOf name ∧ short (described name) = short name := by
  obtain ⟨n, base, rfl, hhead⟩ := exists_eq_rooted name
  rw [described_rooted, namespaceOf_rooted, short_rooted]
  by_cases hlast : base.getLast? = some '\\'
  · obtain ⟨init, rfl⟩ := exists_eq_concat hlast
    obtain ⟨c, hc, hne⟩ := exists_mem_ne_of_head (by simp) hhead
    have hinit : init.head? ≠ some '\\' := by
      cases init with
      | nil => simp
      | cons d init => exact hhead
    constructor
    · rw [described, namespaceOf_concat hhead]
      exact namespaceOf_within hinit (notMem_short _)
    · exact short_within _ (short_ne_nil hc hne) (notMem_short _)
  · rw [described_of_last hhead hlast]
    exact ⟨rfl, rfl⟩

/-- A namespace and a short name describe the type that is named, without the separators around its
name, exactly if no separator follows the last segment.  Otherwise they describe a type of the same
short name inside it.  The names that are tried for a request type are those of the type described,
whatever the name of the entity. -/
theorem described_eq_bare_iff (name : Text) :
    (described name = bare name ↔ ¬ SeparatorTrails name) ∧
      (SeparatorTrails name → described name = name.dropWhile isSeparator ++ short name) ∧
      ∀ (r : Resolver) (endpoint : Endpoint),
        r.requestNames endpoint name = r.requestNames endpoint (described name) := by
  obtain ⟨hspace, hshort⟩ := parts_described name
  refine ⟨?_, ?_, ?_⟩
  · obtain ⟨n, base, rfl, hhead⟩ := exists_eq_rooted name
    rw [described_rooted, bare_rooted n hhead, separatorTrails_rooted n hhead]
    by_cases hlast : base.getLast? = some '\\'
    · obtain ⟨init, rfl⟩ := exists_eq_concat hlast
      have hlonger := length_bare_concat_lt hhead
      refine iff_of_false ?_ (not_not_intro hlast)
      intro heq
      rw [← heq, described_concat hhead, List.length_append] at hlonger
      omega
    · refine iff_of_true ?_ hlast
      rw [described_of_last hhead hlast, bare, dropWhile_of_head hhead, dropEndWhile_of_last hlast]
  · obtain ⟨n, base, rfl, hhead⟩ := exists_eq_rooted name
    rw [separatorTrails_rooted n hhead, described_rooted, short_rooted, dropWhile_rooted n hhead]
    intro hlast
    obtain ⟨init, rfl⟩ := exists_eq_concat hlast
    exact described_concat hhead
  · intro r endpoint
    rw [Resolver.requestNames, Resolver.requestNames, RequestNaming.namespaceFor,
      RequestNaming.namespaceFor, RequestNaming.moduleOf, RequestNaming.moduleOf, hspace, hshort]

/-- The parts of a name that ends in a separator describe another type. -/
theorem described_postSeparator :
    namespaceOf "App\\Post\\".toList = "App\\Post".toList ∧
      short "App\\Post\\".toList = "Post".toList ∧
      described "App\\Post\\".toList = "App\\Post\\Post".toList ∧
      bare "App\\Post\\".toList = "App\\Post".toList := by
  decide +kernel

end TypeName

end EndpointDocs
