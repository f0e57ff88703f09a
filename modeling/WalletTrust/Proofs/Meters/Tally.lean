import WalletTrust.Meters.Basic
import WalletTrust.Proofs.Run
import Mathlib.Algebra.Ring.Nat

/-!
# Counters along a run

Where each step of a run counts under the labels that its call and its answer tell, or not at all, a
counter after the run has one more count for each step that counted, under the labels of the step.
-/

namespace WalletTrust.Meters.Counter

def count (c : Counter) (labels : Labels) : Nat := Family.get 0 labels c

def total (c : Counter) : Nat := (c.map (·.2)).sum

/-- Counts once under labels, if there are any. -/
def tally (c : Counter) : Option Labels → Counter
  | some labels => c.increment labels
  | none => c

@[simp] theorem count_nil (labels : Labels) : count [] labels = 0 := rfl

@[simp] theorem total_nil : total [] = 0 := rfl

theorem count_increment (c : Counter) (labels other : Labels) :
    (c.increment labels).count other = c.count other + if labels = other then 1 else 0 := by
  rw [count, increment, Family.get_update]
  by_cases h : labels = other
  · rw [if_pos h, if_pos h, h, count]
  · rw [if_neg h, if_neg h, count, Nat.add_zero]

theorem total_increment (c : Counter) (labels : Labels) :
    (c.increment labels).total = c.total + 1 := by
  induction c with
  | nil => rfl
  | cons child rest ih =>
    obtain ⟨ls, n⟩ := child
    simp only [increment, total] at ih ⊢
    by_cases h : ls = labels
    · simp only [Family.update, h, if_true, List.map_cons, List.sum_cons]
      omega
    · simp only [Family.update, h, if_false, List.map_cons, List.sum_cons]
      omega

theorem count_tally (c : Counter) (labels? : Option Labels) (labels : Labels) :
    (c.tally labels?).count labels = c.count labels + if labels? = some labels then 1 else 0 := by
  cases labels? with
  | none => rfl
  | some own => simp only [tally, count_increment, Option.some.injEq]

theorem total_tally (c : Counter) (labels? : Option Labels) :
    (c.tally labels?).total = c.total + if labels?.isSome then 1 else 0 := by
  cases labels? with
  | none => rfl
  | some own => exact c.total_increment own

/-- Each step that starts from a state with a property keeps the property, and tallies a counter of
the state under the labels that the call and the answer tell. -/
structure TalliedBy {State Call Answer : Type} (step : State → Call → State × Answer)
    (P : State → Prop) (counter : State → Counter) (labels? : Call → Answer → Option Labels) :
    Prop where
  keeps : ∀ s c, P s → P (step s c).1
  tallies : ∀ s c, P s → counter (step s c).1 = (counter s).tally (labels? c (step s c).2)

namespace TalliedBy

variable {State Call Answer : Type} {step : State → Call → State × Answer} {P : State → Prop}
  {counter : State → Counter} {labels? : Call → Answer → Option Labels}

theorem count_after (h : TalliedBy step P counter labels?) {s : State} (hs : P s)
    (calls : List Call) (labels : Labels) :
    (counter (Run.after step s calls)).count labels = (counter s).count labels +
      (Run.transcript step s calls).countP fun p => labels? p.1 p.2 = some labels := by
  induction calls generalizing s with
  | nil => rfl
  | cons c calls ih =>
    rw [Run.after_cons, ih (h.keeps s c hs), h.tallies s c hs, count_tally, Run.transcript_cons,
      List.countP_cons, Nat.add_right_comm, Nat.add_assoc]
    simp only [decide_eq_true_eq]

theorem total_after (h : TalliedBy step P counter labels?) {s : State} (hs : P s)
    (calls : List Call) :
    (counter (Run.after step s calls)).total = (counter s).total +
      (Run.transcript step s calls).countP fun p => (labels? p.1 p.2).isSome := by
  induction calls generalizing s with
  | nil => rfl
  | cons c calls ih =>
    rw [Run.after_cons, ih (h.keeps s c hs), h.tallies s c hs, total_tally, Run.transcript_cons,
      List.countP_cons, Nat.add_right_comm, Nat.add_assoc]

end TalliedBy
end WalletTrust.Meters.Counter
