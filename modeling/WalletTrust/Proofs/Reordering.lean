import WalletTrust.Proofs.Run
import Mathlib.Data.List.FinRange
import Mathlib.Data.List.Sort
import Mathlib.Logic.Equiv.Fin.Basic

/-!
# Reordered runs

A view of the state that some calls change, according to nothing but the view, is the same after any
reordering that keeps these calls in their order.
-/

namespace WalletTrust.Run

variable {State Call Answer V : Type} {step : State → Call → State × Answer}
  {P : State → Prop} {view : State → V} {p : Call → Bool}

theorem view_after (hkeeps : ∀ s c, P s → P (step s c).1)
    (hothers : ∀ s c, P s → p c = false → view (step s c).1 = view s)
    (hown : ∀ s s' c, P s → P s' → p c = true → view s = view s' →
      view (step s c).1 = view (step s' c).1)
    {s s' : State} (hs : P s) (hs' : P s') (hview : view s = view s') (calls : List Call) :
    view (after step s calls) = view (after step s' (calls.filter p)) := by
  induction calls generalizing s s' with
  | nil => exact hview
  | cons c calls ih =>
    cases hc : p c with
    | false =>
      rw [List.filter_cons_of_neg (by simp [hc])]
      exact ih (hkeeps s c hs) hs' ((hothers s c hs hc).trans hview)
    | true =>
      rw [List.filter_cons_of_pos hc]
      exact ih (hkeeps s c hs) (hkeeps s' c hs') (hown s s' c hs hs' hc hview)

variable {n : ℕ} {calls : Fin n → Call} {σ : Equiv.Perm (Fin n)}

/-- Calls that are not put past each other are found in the same order. -/
theorem filter_reordered
    (hσ : ∀ i j, i < j → p (calls (σ i)) = true → p (calls (σ j)) = true → σ i < σ j) :
    (List.ofFn (calls ∘ σ)).filter p = (List.ofFn calls).filter p := by
  have hperm : (((List.finRange n).map σ).filter (p ∘ calls)).Perm
      ((List.finRange n).filter (p ∘ calls)) := (Equiv.Perm.map_finRange_perm σ).filter _
  have hsorted : (((List.finRange n).map σ).filter (p ∘ calls)).Pairwise (· < ·) := by
    rw [List.filter_map, List.pairwise_map, List.pairwise_filter]
    exact (List.pairwise_lt_finRange n).imp fun hij hi hj => hσ _ _ hij hi hj
  have hpositions : ((List.finRange n).map σ).filter (p ∘ calls) =
      (List.finRange n).filter (p ∘ calls) :=
    hperm.eq_of_pairwise (fun _ _ _ _ hij hji => absurd hij hji.asymm) hsorted
      ((List.pairwise_lt_finRange n).filter _)
  rw [List.ofFn_eq_map, List.ofFn_eq_map, ← List.map_map, List.filter_map, hpositions,
    List.filter_map]

theorem view_reordered (hkeeps : ∀ s c, P s → P (step s c).1)
    (hothers : ∀ s c, P s → p c = false → view (step s c).1 = view s)
    (hown : ∀ s s' c, P s → P s' → p c = true → view s = view s' →
      view (step s c).1 = view (step s' c).1)
    {s : State} (hs : P s)
    (hσ : ∀ i j, i < j → p (calls (σ i)) = true → p (calls (σ j)) = true → σ i < σ j) :
    view (after step s (List.ofFn (calls ∘ σ))) = view (after step s (List.ofFn calls)) := by
  have hrun := view_after hkeeps hothers hown hs hs rfl
  rw [hrun (List.ofFn (calls ∘ σ)), filter_reordered hσ, ← hrun (List.ofFn calls)]

end WalletTrust.Run
