import Mathlib.Data.List.Infix

/-!
# Runs of a step function

A run takes its calls one after the other from a state and keeps the answer to each of them. What
one step preserves, a whole run preserves.
-/

namespace WalletTrust.Run

variable {State Call Answer : Type} (step : State → Call → State × Answer)

def after (s : State) (calls : List Call) : State := calls.foldl (fun s c => (step s c).1) s

def answers : State → List Call → List Answer
  | _, [] => []
  | s, c :: rest => (step s c).2 :: answers (step s c).1 rest

/-- Calls, each with the answer to it. -/
def transcript (s : State) (calls : List Call) : List (Call × Answer) :=
  calls.zip (answers step s calls)

@[simp] theorem after_nil (s : State) : after step s [] = s := rfl

@[simp] theorem after_cons (s : State) (c : Call) (calls : List Call) :
    after step s (c :: calls) = after step (step s c).1 calls := rfl

@[simp] theorem after_append (s : State) (xs ys : List Call) :
    after step s (xs ++ ys) = after step (after step s xs) ys := by simp [after]

@[simp] theorem transcript_nil (s : State) : transcript step s [] = [] := rfl

@[simp] theorem transcript_cons (s : State) (c : Call) (calls : List Call) :
    transcript step s (c :: calls) = (c, (step s c).2) :: transcript step (step s c).1 calls := rfl

theorem transcript_append (s : State) (xs ys : List Call) :
    transcript step s (xs ++ ys) =
      transcript step s xs ++ transcript step (after step s xs) ys := by
  induction xs generalizing s with
  | nil => rfl
  | cons c xs ih =>
    rw [List.cons_append, transcript_cons, transcript_cons, ih, List.cons_append, after_cons]

@[simp] theorem length_answers (s : State) (calls : List Call) :
    (answers step s calls).length = calls.length := by
  induction calls generalizing s with
  | nil => rfl
  | cons c calls ih => simp only [answers, List.length_cons, ih]

/-- Answers that depend on the calls alone are read off them. -/
theorem answers_eq_map {answer : Call → Answer} (hstep : ∀ s c, (step s c).2 = answer c) (s : State)
    (calls : List Call) : answers step s calls = calls.map answer := by
  induction calls generalizing s with
  | nil => rfl
  | cons c calls ih => simp only [answers, hstep, ih, List.map_cons]

theorem forall_transcript_concat {p : Call × Answer → Prop} (s : State) (calls : List Call)
    (c : Call) :
    (∀ x ∈ transcript step s (calls ++ [c]), p x) ↔
      (∀ x ∈ transcript step s calls, p x) ∧ p (c, (step (after step s calls) c).2) := by
  rw [transcript_append, transcript_cons, transcript_nil, List.forall_mem_append,
    List.forall_mem_singleton]

/-- What every step of a run preserves holds after the run. -/
theorem after_invariant {P : State → Prop} {calls : List Call}
    (hstep : ∀ s, ∀ c ∈ calls, P s → P (step s c).1) {s : State} (h : P s) :
    P (after step s calls) := by
  induction calls generalizing s with
  | nil => exact h
  | cons c calls ih =>
    have hfirst := hstep s c List.mem_cons_self h
    exact ih (fun s' c' hc' => hstep s' c' (List.mem_cons_of_mem c hc')) hfirst

/-- A state that gains at most one item in each step has gained those of a run in their order. -/
theorem after_collect {Item : Type} {f : List Item → State} {gain : Call → Option Item}
    (hstep : ∀ items c, (step (f items) c).1 = f (items ++ (gain c).toList)) (items : List Item)
    (calls : List Call) : after step (f items) calls = f (items ++ calls.filterMap gain) := by
  induction calls generalizing items with
  | nil => simp
  | cons c calls ih =>
    rw [after_cons, hstep, ih, List.append_assoc]
    cases h : gain c <;> simp [h]

/-- A map of states that no step can tell apart is one that no run can tell apart. -/
theorem run_map {f : State → State} (hstep : ∀ s c, step (f s) c = (f (step s c).1, (step s c).2))
    (s : State) (calls : List Call) :
    after step (f s) calls = f (after step s calls) ∧
      answers step (f s) calls = answers step s calls := by
  induction calls generalizing s with
  | nil => exact ⟨rfl, rfl⟩
  | cons c calls ih =>
    obtain ⟨hafter, hanswers⟩ := ih (step s c).1
    simp only [after_cons, answers, hstep]
    exact ⟨hafter, by rw [hanswers]⟩

end WalletTrust.Run
