import EndpointDocs.RequestNaming
import Mathlib.Data.List.TakeWhile

/-!
# Spellings of a name

Names with one canonical form are spellings of the name of one type.  Separators in front of a name
belong neither to its last segment nor to the segments before that one.
-/

namespace EndpointDocs

theorem Text.afterLast_replicate_append (mark : Char) (n : ℕ) (s : Text) :
    afterLast mark (List.replicate n mark ++ s) = afterLast mark s := by
  have hmarks : (List.replicate n mark).takeWhile (· != mark) = [] := by
    cases n <;> simp [List.replicate_succ]
  rw [afterLast, afterLast, List.reverse_append, List.reverse_replicate, List.takeWhile_append]
  split
  · next hall =>
    have hwhole : s.reverse.takeWhile (· != mark) = s.reverse :=
      (List.takeWhile_prefix _).eq_of_length hall
    rw [hmarks, List.append_nil, hwhole]
  · rfl

namespace TypeName

/-- Spellings of the name of one type. -/
def SameType (a b : Text) : Prop :=
  canonical a = canonical b

instance : DecidableRel SameType := fun a b ↦
  inferInstanceAs (Decidable (canonical a = canonical b))

/-- A name with separators in front of it. -/
def rooted (n : ℕ) (name : Text) : Text :=
  List.replicate n '\\' ++ name

theorem dropWhile_replicate (n : ℕ) : (List.replicate n '\\').dropWhile isSeparator = [] := by
  rw [List.dropWhile_eq_nil_iff]
  intro c hc
  rw [List.eq_of_mem_replicate hc]
  rfl

theorem dropEndWhile_rooted (n : ℕ) (name : Text) :
    Text.dropEndWhile isSeparator (rooted n name) =
      if Text.dropEndWhile isSeparator name = [] then []
      else rooted n (Text.dropEndWhile isSeparator name) := by
  simp only [Text.dropEndWhile, rooted, List.reverse_append, List.reverse_replicate,
    List.dropWhile_append, dropWhile_replicate, List.isEmpty_iff, List.reverse_eq_nil_iff]
  split
  · rfl
  · rw [List.reverse_append, List.reverse_replicate]

theorem short_rooted (n : ℕ) (name : Text) : short (rooted n name) = short name := by
  rw [short, short, dropEndWhile_rooted]
  split
  · next hseparators => rw [hseparators]
  · exact Text.afterLast_replicate_append '\\' n _

/-- Separators in front of a name make no difference to its namespace. -/
theorem namespaceOf_rooted (n : ℕ) (name : Text) :
    namespaceOf (rooted n name) = namespaceOf name := by
  have hdrop : (rooted n name).dropWhile isSeparator = name.dropWhile isSeparator := by
    rw [rooted, List.dropWhile_append, dropWhile_replicate]
    rfl
  rw [namespaceOf, namespaceOf, hdrop]

end TypeName

end EndpointDocs
