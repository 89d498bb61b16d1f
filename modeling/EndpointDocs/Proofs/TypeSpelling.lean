import EndpointDocs.Proofs.TypeRule
import EndpointDocs.Proofs.Words
import Mathlib.Data.Set.Function

/-!
# The spelling of types

A type is its collection wrappers around a type without any, and its spelling is read back wrapper
by wrapper.  So the spelling of a type within the nesting limit stands for that type, and the
spellings of these types are exactly the canonical tokens.
-/

namespace EndpointDocs

namespace ParamType

/-- The collection wrappers of a type, the outermost first. -/
def wrappers : ParamType → List Wrapper
  | arrayOf item => .arrayOf :: item.wrappers
  | objectOf value => .objectOf :: value.wrappers
  | _ => []

def core : ParamType → ParamType
  | arrayOf item => item.core
  | objectOf value => value.core
  | t => t

theorem foldr_wrap_core (t : ParamType) : t.wrappers.foldr Wrapper.wrap t.core = t := by
  induction t with
  | arrayOf item ih => rw [wrappers, core, List.foldr_cons, ih, Wrapper.wrap]
  | objectOf value ih => rw [wrappers, core, List.foldr_cons, ih, Wrapper.wrap]
  | _ => rfl

theorem core_nesting (t : ParamType) : t.core.nesting = 0 := by
  induction t with
  | arrayOf item ih => exact ih
  | objectOf value ih => exact ih
  | _ => rfl

theorem nesting_wrap (wrapper : Wrapper) (t : ParamType) :
    (wrapper.wrap t).nesting = t.nesting + 1 := by
  cases wrapper <;> rfl

theorem nesting_foldr_wrap (wrappers : List Wrapper) (t : ParamType) :
    (wrappers.foldr Wrapper.wrap t).nesting = wrappers.length + t.nesting := by
  induction wrappers with
  | nil => simp
  | cons wrapper wrappers ih =>
      rw [List.foldr_cons, nesting_wrap, ih, List.length_cons]
      omega

/-! ## What reading takes off a token -/

theorem nesting_of_ofAlias? {token : Text} {t : ParamType} (h : ofAlias? token = some t) :
    t.nesting = 0 := by
  obtain ⟨entry, hfound, rfl⟩ := Option.map_eq_some_iff.mp h
  have hall : ∀ entry ∈ aliases, entry.1.nesting = 0 := by decide
  exact hall entry (List.mem_of_find?_eq_some hfound)

theorem length_unwrap_le (n : Nat) (token : Text) : (unwrap n token).1.length ≤ n := by
  induction n generalizing token with
  | zero => simp [unwrap]
  | succ n ih =>
      rw [unwrap]
      cases unwrapOnce? token with
      | none => simp
      | some found => simpa using ih found.2

/-- No more wrappers are read than the limit allows. -/
theorem nesting_ofToken_le (token : Text) : (ofToken token).nesting ≤ nestingLimit := by
  have hcore : ∀ core, ((ofAlias? core).getD string).nesting = 0 := by
    intro core
    cases halias : ofAlias? core with
    | none => rfl
    | some t => exact nesting_of_ofAlias? halias
  rw [ofToken]
  simp only [nesting_foldr_wrap, hcore]
  exact length_unwrap_le nestingLimit (Text.trim token)

/-! ## Reading a spelling -/

theorem spelling_arrayOf (item : ParamType) :
    (arrayOf item).spelling = item.spelling ++ "[]".toList := rfl

theorem spelling_objectOf (value : ParamType) :
    (objectOf value).spelling = "object<".toList ++ value.spelling ++ ">".toList := rfl

theorem not_blank_of_mem_spelling (t : ParamType) : ∀ c ∈ t.spelling, isBlank c = false := by
  induction t with
  | arrayOf item ih =>
      rw [spelling_arrayOf, List.forall_mem_append]
      exact ⟨ih, Text.nonBlanks_eq_self_iff.mp (by decide +kernel)⟩
  | objectOf value ih =>
      rw [spelling_objectOf, List.forall_mem_append, List.forall_mem_append]
      have hopen : Text.nonBlanks "object<".toList = "object<".toList := by decide +kernel
      have hclose : Text.nonBlanks ">".toList = ">".toList := by decide +kernel
      exact ⟨⟨Text.nonBlanks_eq_self_iff.mp hopen, ih⟩, Text.nonBlanks_eq_self_iff.mp hclose⟩
  | _ => exact Text.nonBlanks_eq_self_iff.mp (by decide +kernel)

theorem spelling_ne_nil (t : ParamType) : t.spelling ≠ [] := by
  cases t with
  | arrayOf item => simp [spelling_arrayOf]
  | objectOf value => simp [spelling_objectOf]
  | _ => decide +kernel

theorem trim_spelling (t : ParamType) : Text.trim t.spelling = t.spelling :=
  Text.trim_eq_self_of_forall t.not_blank_of_mem_spelling

theorem unwrapOnce?_arrayOf (item : ParamType) :
    unwrapOnce? (arrayOf item).spelling = some (.arrayOf, item.spelling) := by
  rw [unwrapOnce?_eq_some_iff, spelling_arrayOf]
  exact ⟨item.spelling, .array _, item.trim_spelling⟩

theorem unwrapOnce?_objectOf (value : ParamType) :
    unwrapOnce? (objectOf value).spelling = some (.objectOf, value.spelling) := by
  have hinner : Text.trim value.spelling ≠ [] := by
    rw [trim_spelling]
    exact value.spelling_ne_nil
  have hhead : Text.lower "object".toList = "object".toList := by decide +kernel
  have hwraps := Wraps.object (by decide) (.inl hhead) hinner
  rw [unwrapOnce?_eq_some_iff]
  exact ⟨value.spelling, by simpa [spelling_objectOf] using hwraps, value.trim_spelling⟩

theorem unwrapOnce?_of_nesting_eq_zero {t : ParamType} (h : t.nesting = 0) :
    unwrapOnce? t.spelling = none := by
  cases t with
  | arrayOf item => simp [nesting] at h
  | objectOf value => simp [nesting] at h
  | _ => decide +kernel

theorem ofAlias?_spelling {t : ParamType} (h : t.nesting = 0) :
    ofAlias? t.spelling = some t := by
  cases t with
  | arrayOf item => simp [nesting] at h
  | objectOf value => simp [nesting] at h
  | _ => decide +kernel

/-- A spelling is unwrapped down to the type inside its wrappers, also when it has as many of them
as may be taken off. -/
theorem unwrap_spelling {t : ParamType} {n : Nat} (h : t.nesting ≤ n) :
    unwrap n t.spelling = (t.wrappers, t.core.spelling) := by
  induction t generalizing n with
  | arrayOf item ih =>
      obtain ⟨n, rfl⟩ := Nat.exists_eq_add_of_lt (Nat.lt_of_lt_of_le (Nat.succ_pos _) h)
      rw [Nat.zero_add] at h ⊢
      rw [unwrap, unwrapOnce?_arrayOf]
      simp only [ih (Nat.le_of_succ_le_succ h)]
      rfl
  | objectOf value ih =>
      obtain ⟨n, rfl⟩ := Nat.exists_eq_add_of_lt (Nat.lt_of_lt_of_le (Nat.succ_pos _) h)
      rw [Nat.zero_add] at h ⊢
      rw [unwrap, unwrapOnce?_objectOf]
      simp only [ih (Nat.le_of_succ_le_succ h)]
      rfl
  | _ =>
      cases n with
      | zero => rfl
      | succ n =>
          rw [unwrap, unwrapOnce?_of_nesting_eq_zero rfl]
          rfl

/-- A type within the limit is read back from its spelling. -/
theorem ofToken_spelling {t : ParamType} (h : t.nesting ≤ nestingLimit) :
    ofToken t.spelling = t := by
  rw [ofToken, trim_spelling, unwrap_spelling h]
  simp only [ofAlias?_spelling t.core_nesting, Option.getD_some]
  exact t.foldr_wrap_core

/-- The canonical tokens are the spellings of the types within the limit. -/
theorem isSpelling_iff {token : Text} : isSpelling token = true ↔
    ∃ t : ParamType, t.nesting ≤ nestingLimit ∧ t.spelling = token := by
  rw [isSpelling, beq_iff_eq]
  constructor
  · intro h
    exact ⟨ofToken token, nesting_ofToken_le token, h⟩
  · rintro ⟨t, hnesting, rfl⟩
    rw [ofToken_spelling hnesting]

/-- Reading stays within the nesting limit and gives a type of that limit back from its spelling.
Hence spelling what is read changes nothing the second time, no two types within the limit are
spelled alike, and the canonical tokens are their spellings. -/
theorem spelling_isNormalForm :
    (∀ token, (ofToken token).nesting ≤ nestingLimit) ∧
      Set.LeftInvOn ofToken spelling {t | t.nesting ≤ nestingLimit} ∧
      (∀ token, (ofToken (ofToken token).spelling).spelling = (ofToken token).spelling) ∧
      Set.InjOn spelling {t | t.nesting ≤ nestingLimit} ∧
      ∀ token, isSpelling token = true ↔
        ∃ t : ParamType, t.nesting ≤ nestingLimit ∧ t.spelling = token := by
  have hinverse : Set.LeftInvOn ofToken spelling {t | t.nesting ≤ nestingLimit} :=
    fun t h ↦ ofToken_spelling h
  refine ⟨nesting_ofToken_le, hinverse, ?_, hinverse.injOn, fun _ ↦ isSpelling_iff⟩
  intro token
  rw [ofToken_spelling (nesting_ofToken_le token)]

end ParamType

end EndpointDocs
