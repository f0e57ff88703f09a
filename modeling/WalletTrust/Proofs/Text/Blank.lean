import Mathlib.Data.List.TakeWhile
import WalletTrust.Text.Blank

/-!
# Trimming

What is dropped from the ends of a list, and what stays.
-/

namespace WalletTrust.Text

variable {α : Type} {p : α → Bool}

/-- Whatever satisfies `p` may be put at both ends. -/
theorem trimBy_padded {left right : List α} (hleft : ∀ a ∈ left, p a = true)
    (hright : ∀ a ∈ right, p a = true) (s : List α) :
    trimBy p (left ++ (s ++ right)) = trimBy p s := by
  have hback : ∀ a ∈ right.reverse, p a = true := by simpa using hright
  rw [trimBy, trimBy, List.dropWhile_append_of_pos hleft, List.dropWhile_append]
  cases s.dropWhile p with
  | nil =>
    have hdrop : right.dropWhile p = [] := List.dropWhile_eq_nil_iff.2 hright
    simp [hdrop]
  | cons a rest => simp [List.dropWhile_append_of_pos hback]

theorem dropWhile_of_forall_not {s : List α} (h : ∀ a ∈ s, p a = false) : s.dropWhile p = s := by
  cases s with
  | nil => rfl
  | cons a rest => simp [h a List.mem_cons_self]

theorem trimBy_of_forall_not {s : List α} (h : ∀ a ∈ s, p a = false) : trimBy p s = s := by
  have hback : ∀ a ∈ s.reverse, p a = false := by simpa using h
  rw [trimBy, dropWhile_of_forall_not h, dropWhile_of_forall_not hback, List.reverse_reverse]

/-- What is dropped satisfies `p`. -/
theorem exists_eq_padded_trimBy (p : α → Bool) (s : List α) :
    ∃ left right, (∀ a ∈ left, p a = true) ∧ (∀ a ∈ right, p a = true) ∧
      s = left ++ (trimBy p s ++ right) := by
  have hback := List.takeWhile_append_dropWhile (p := p) (l := (s.dropWhile p).reverse)
  refine ⟨s.takeWhile p, ((s.dropWhile p).reverse.takeWhile p).reverse, ?_, ?_, ?_⟩
  · intro a ha
    exact List.mem_takeWhile_imp ha
  · intro a ha
    exact List.mem_takeWhile_imp (List.mem_reverse.1 ha)
  · rw [trimBy, ← List.reverse_append, hback, List.reverse_reverse,
      List.takeWhile_append_dropWhile]

end WalletTrust.Text
