import WalletTrust.Process

/-!
# Outcomes of operations

An operation in several parts succeeds only if each part does. The results of the parts are read off
one after the other.
-/

namespace WalletTrust

section
variable {ε α β : Type}

theorem bind_ok {x : Except ε α} {f : α → Except ε β} {b : β} (h : (x >>= f) = .ok b) :
    ∃ a, x = .ok a ∧ f a = .ok b := by
  cases x with
  | error e => cases h
  | ok a => exact ⟨a, rfl, h⟩

theorem exists_ok {x : Except ε α} (h : x.toOption.isSome = true) : ∃ a, x = .ok a := by
  cases x with
  | error e => cases h
  | ok a => exact ⟨a, rfl⟩

theorem map_ok {x : Except ε α} {f : α → β} {b : β} (h : x.map f = .ok b) :
    ∃ a, x = .ok a ∧ f a = b := by
  cases x with
  | error e => cases h
  | ok a => exact ⟨a, rfl, Except.ok.inj h⟩

end

namespace Logged

variable {α β : Type}

theorem bind_answer (x : Logged α) (f : α → Logged β) :
    (x >>= f).answer = x.answer >>= fun a => (f a).answer := by
  obtain ⟨answer, log⟩ := x
  cases answer <;> rfl

theorem ofExcept_answer (x : Except Failure α) : (ofExcept x).answer = x := rfl

end Logged

namespace Effect

/-- What an operation leaves and answers, without what it logs: the step of a run. -/
def outcome {σ α : Type} (e : Effect σ α) : σ × Except Failure α := (e.state, e.answer)

variable {σ α : Type} {e : Effect σ α} {left : σ × Except Failure α}

theorem state_eq (h : e.outcome = left) : e.state = left.1 := congrArg Prod.fst h

theorem answer_eq (h : e.outcome = left) : e.answer = left.2 := congrArg Prod.snd h

end Effect

namespace Process

variable {σ α β : Type} {s left : σ}

theorem bind_answer (x : Process σ α) (f : α → Process σ β) (s : σ) :
    ((x >>= f) s).answer = (x s).answer >>= fun a => (f a (x s).state).answer := by
  rw [bind_apply]
  generalize x s = e
  obtain ⟨answer, mid, log⟩ := e
  cases answer <;> rfl

theorem bind_of_error {x : Process σ α} {f : Failure} (h : (x s).outcome = (left, .error f))
    (g : α → Process σ β) : ((x >>= g) s).outcome = (left, .error f) := by
  rw [bind_apply]
  generalize x s = e at h ⊢
  obtain ⟨answer, mid, log⟩ := e
  cases h
  rfl

theorem bind_of_ok {x : Process σ α} {a : α} (h : (x s).outcome = (left, .ok a))
    (g : α → Process σ β) : ((x >>= g) s).outcome = (g a left).outcome := by
  rw [bind_apply]
  generalize x s = e at h ⊢
  obtain ⟨answer, mid, log⟩ := e
  cases h
  rfl

/-- An operation in two parts succeeds if the second succeeds where the first, which does too, has
left off. -/
theorem bind_ok {x : Process σ α} {f : α → Process σ β} {b : β}
    (h : ((x >>= f) s).outcome = (left, .ok b)) :
    ∃ a mid, (x s).outcome = (mid, .ok a) ∧ (f a mid).outcome = (left, .ok b) := by
  rw [bind_apply] at h
  generalize x s = e at h ⊢
  obtain ⟨answer, mid, log⟩ := e
  cases answer with
  | error f => cases h
  | ok a => exact ⟨a, mid, rfl, h⟩

theorem query_bind_ok {f : σ → Except Failure α} {g : α → Process σ β} {b : β}
    (h : ((query f >>= g) s).outcome = (left, .ok b)) :
    ∃ a, f s = .ok a ∧ (g a s).outcome = (left, .ok b) := by
  obtain ⟨a, mid, hfirst, hrest⟩ := bind_ok h
  obtain rfl : s = mid := congrArg Prod.fst hfirst
  exact ⟨a, congrArg Prod.snd hfirst, hrest⟩

end Process
end WalletTrust
