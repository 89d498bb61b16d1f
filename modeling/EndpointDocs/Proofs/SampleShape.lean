import EndpointDocs.ParamType.Sample
import EndpointDocs.Proofs.NearestDouble

/-!
# The shape of samples

A draw below a bound stays below it, so a sample is what its type calls for: a word of the list, a
small integer, a double, a flag, the name of a file, or a collection of such values.
-/

namespace EndpointDocs

namespace Random

theorem high_lt (word : UInt32) {bound : Nat} (h : 0 < bound) :
    word.toNat * bound / 0x100000000 < bound := by
  apply Nat.div_lt_of_lt_mul
  exact Nat.mul_lt_mul_of_pos_right word.toNat_lt h

/-- However often a word is rejected, the number drawn is below the bound. -/
theorem belowFrom_lt {bound : Nat} (h : 0 < bound) (zone n : Nat) (s : Stream) :
    (belowFrom bound zone n s).1 < bound := by
  induction n generalizing s with
  | zero => exact high_lt _ h
  | succ n ih =>
      rw [belowFrom]
      simp only
      split
      · exact high_lt _ h
      · exact ih _

theorem below_lt {bound : Nat} (h : 0 < bound) (s : Stream) : (below bound s).1 < bound :=
  belowFrom_lt h _ _ s

theorem choose_mem {α : Type} (fallback : α) {xs : List α} (h : xs ≠ []) (s : Stream) :
    (choose fallback xs s).1 ∈ xs := by
  have hlt : (below xs.length s).1 < xs.length := below_lt (List.length_pos_iff.mpr h) s
  simp [choose, h, List.getElem?_eq_getElem hlt]

end Random

def IsSampleWord (s : Text) : Prop :=
  ∃ word ∈ sampleWords, s = word.toList

theorem isSampleWord_sampleWord (s : Random.Stream) : IsSampleWord (sampleWord s).1 :=
  ⟨_, Random.choose_mem "example" (by simp [sampleWords]) s, rfl⟩

namespace ParamType

/-- The values that may be made up for a type. -/
inductive IsSample : ParamType → Json → Prop
  | string {word : Text} : IsSampleWord word → IsSample .string (.text word)
  | integer {n : Int} : 1 ≤ n → n ≤ 20 → IsSample .integer (.int n)
  | number {x : Binary64} : x.IsDouble → IsSample .number (.float x)
  | boolean (b : Bool) : IsSample .boolean (.bool b)
  | file {name : String} : name ∈ sampleFiles → IsSample .file (.text name.toList)
  | object : IsSample .object (.object [])
  | array {first second : Text} : IsSampleWord first → IsSampleWord second →
      IsSample .array (.array [.text first, .text second])
  | arrayOf {item : ParamType} {first second : Json} : item.IsSample first →
      item.IsSample second → IsSample (.arrayOf item) (.array [first, second])
  | objectOf {value : ParamType} {name : Text} {v : Json} : IsSampleWord name →
      value.IsSample v → IsSample (.objectOf value) (.object [(name, v)])

/-- By induction on the type, a sample has the shape of the type. -/
theorem isSample_sample (t : ParamType) (s : Random.Stream) : t.IsSample (t.sample s).1 := by
  induction t generalizing s with
  | string => exact .string (isSampleWord_sampleWord s)
  | integer =>
      have hlt : (Random.below 20 s).1 < 20 := Random.below_lt (by decide) s
      have hsample : (integer.sample s).1 = .int ((Random.below 20 s).1 + 1 : Nat) := rfl
      rw [hsample]
      exact .integer (by omega) (by omega)
  | number => exact .number (Random.isDouble_cents s)
  | boolean => exact .boolean _
  | file => exact .file (Random.choose_mem "file.txt" (by simp [sampleFiles]) s)
  | object => exact .object
  | array => exact .array (isSampleWord_sampleWord s) (isSampleWord_sampleWord _)
  | arrayOf item ih => exact .arrayOf (ih s) (ih _)
  | objectOf value ih => exact .objectOf (isSampleWord_sampleWord s) (ih _)

end ParamType

end EndpointDocs
