import EndpointDocs.Proofs.SampleShape
import EndpointDocs.Proofs.TypeSpelling

/-!
# The size of samples

A sample nests as deep as its type and no more than one level deeper, and each array in it doubles
the values at the bottom.  Reading takes a bounded number of wrappers off a token, so no token calls
for a large sample.
-/

namespace EndpointDocs

namespace Json

mutual

/-- The levels of arrays and objects that a value nests. -/
def levels : Json → ℕ
  | .array items => itemLevels items + 1
  | .object fields => fieldLevels fields + 1
  | _ => 0

def itemLevels : List Json → ℕ
  | [] => 0
  | item :: items => max item.levels (itemLevels items)

def fieldLevels : List (Text × Json) → ℕ
  | [] => 0
  | (_, v) :: fields => max v.levels (fieldLevels fields)

end

mutual

/-- The leaves of a value: the values in it that hold no other value. -/
def leaves : Json → ℕ
  | .array (item :: items) => item.leaves + itemLeaves items
  | .object ((_, v) :: fields) => v.leaves + fieldLeaves fields
  | _ => 1

def itemLeaves : List Json → ℕ
  | [] => 0
  | item :: items => item.leaves + itemLeaves items

def fieldLeaves : List (Text × Json) → ℕ
  | [] => 0
  | (_, v) :: fields => v.leaves + fieldLeaves fields

end

theorem levels_pair (first second : Json) :
    (Json.array [first, second]).levels = max first.levels second.levels + 1 := by
  simp [levels, itemLevels]

theorem levels_field (name : Text) (v : Json) :
    (Json.object [(name, v)]).levels = v.levels + 1 := by
  simp [levels, fieldLevels]

theorem leaves_pair (first second : Json) :
    (Json.array [first, second]).leaves = first.leaves + second.leaves := by
  simp [leaves, itemLeaves]

theorem leaves_field (name : Text) (v : Json) :
    (Json.object [(name, v)]).leaves = v.leaves := by
  simp [leaves, fieldLeaves]

end Json

namespace ParamType

/-- A sample nests one level more than its type at most, that of an untyped collection. -/
theorem IsSample.levels_le {t : ParamType} {v : Json} (h : t.IsSample v) :
    v.levels ≤ t.nesting + 1 := by
  induction h with
  | array _ _ =>
      rw [Json.levels_pair]
      exact le_rfl
  | arrayOf _ _ ihfirst ihsecond =>
      rw [Json.levels_pair, nesting]
      exact Nat.succ_le_succ (max_le ihfirst ihsecond)
  | objectOf _ _ ih =>
      rw [Json.levels_field, nesting]
      exact Nat.succ_le_succ ih
  | _ => simp [Json.levels, Json.fieldLevels, nesting]

/-- A wrapper doubles the leaves of a sample at most, and an untyped collection has two. -/
theorem IsSample.leaves_le {t : ParamType} {v : Json} (h : t.IsSample v) :
    v.leaves ≤ 2 ^ (t.nesting + 1) := by
  induction h with
  | array _ _ =>
      rw [Json.leaves_pair]
      exact le_rfl
  | arrayOf _ _ ihfirst ihsecond =>
      rw [Json.leaves_pair, nesting, Nat.pow_succ, Nat.mul_two]
      exact Nat.add_le_add ihfirst ihsecond
  | objectOf _ _ ih =>
      rw [Json.leaves_field, nesting, Nat.pow_succ]
      omega
  | _ => simp [Json.leaves, nesting]

/-! ## The greatest sample -/

/-- Arrays of arrays down to arrays of texts. -/
def arrays : ℕ → ParamType
  | 0 => array
  | n + 1 => arrayOf (arrays n)

theorem nesting_arrays (n : ℕ) : (arrays n).nesting = n := by
  induction n with
  | zero => rfl
  | succ n ih => rw [arrays, nesting, ih]

/-- Both bounds are reached by the samples of nested arrays. -/
theorem IsSample.size_of_arrays {n : ℕ} {v : Json} (h : (arrays n).IsSample v) :
    v.levels = n + 1 ∧ v.leaves = 2 ^ (n + 1) := by
  induction n generalizing v with
  | zero =>
      cases h
      rw [Json.levels_pair, Json.leaves_pair]
      exact ⟨rfl, rfl⟩
  | succ n ih =>
      rw [arrays] at h
      obtain _ | _ | _ | _ | _ | _ | _ | ⟨hfirst, hsecond⟩ | _ := h
      obtain ⟨hlevels, hleaves⟩ := ih hfirst
      obtain ⟨hlevels', hleaves'⟩ := ih hsecond
      rw [Json.levels_pair, Json.leaves_pair, hlevels, hlevels', hleaves, hleaves', max_self,
        Nat.pow_succ 2 (n + 1), Nat.mul_two]
      exact ⟨rfl, rfl⟩

/-- A sample is a value that its type calls for.  So the sample for a token nests at most nine
levels of arrays and objects and has at most 512 leaves, and there is a token whose samples all have
as many. -/
theorem sample_isSample_bounded :
    (∀ t s, IsSample t (t.sample s).1) ∧
      (∀ token s, ((ofToken token).sample s).1.levels ≤ 9 ∧
        ((ofToken token).sample s).1.leaves ≤ 512) ∧
      ∃ token, ∀ s, ((ofToken token).sample s).1.levels = 9 ∧
        ((ofToken token).sample s).1.leaves = 512 := by
  refine ⟨isSample_sample, ?_, ?_⟩
  · intro token s
    have hsample := (ofToken token).isSample_sample s
    have hnesting : (ofToken token).nesting + 1 ≤ 9 := Nat.succ_le_succ (nesting_ofToken_le token)
    constructor
    · exact hsample.levels_le.trans hnesting
    · exact hsample.leaves_le.trans (Nat.pow_le_pow_right (by decide) hnesting)
  · refine ⟨(arrays nestingLimit).spelling, ?_⟩
    intro s
    rw [ofToken_spelling (nesting_arrays nestingLimit).le]
    exact ((arrays nestingLimit).isSample_sample s).size_of_arrays

end ParamType

end EndpointDocs
