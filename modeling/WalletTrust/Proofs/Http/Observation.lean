import WalletTrust.Proofs.Http.Change

/-!
# Observers have no influence

An observer hears of a change after it was made, and its failures are settled apart. Commands and
requests are therefore answered as if an observer that ignores everything were in its place, and
they lead to the same registry and the same store.
-/

namespace WalletTrust

/-- The host with an observer that ignores everything. -/
def Host.unobserved (h : Host) : Host := { h with observer := .silent }

namespace Host

variable (h : Host) (clock : Clock) (heard : Clocks) (command : Command)

theorem told_silent (notice? : Option Notice) : told heard notice? .silent = .silent := by
  cases notice? <;> rfl

/-- The same end of an operation, apart from the observer. -/
theorem perform_unobserved :
    (h.unobserved.perform clock command heard).outcome =
      Prod.map unobserved id (h.perform clock command heard).outcome := by
  rw [h.perform_spec ⟨clock, command⟩, h.unobserved.perform_spec ⟨clock, command⟩]
  simp [afterCall, unobserved, told_silent]

/-- The authority is asked about the registry and the caller alone. -/
theorem performAs_unobserved (a : Authority) (caller : Value) :
    (h.unobserved.performAs a clock caller command heard).outcome =
      Prod.map unobserved id (h.performAs a clock caller command heard).outcome := by
  rcases h.performAs_cases a clock caller command heard with ⟨f, hf, houtcome⟩ | ⟨hok, houtcome⟩
  · rw [houtcome]
    exact performAs_of_error (h := h.unobserved) hf clock heard
  · rw [houtcome, ← perform_unobserved]
    exact performAs_of_ok (h := h.unobserved) hok clock heard

end Host

namespace Http

def Service.unobserved (s : Service) : Service := { s with host := s.host.unobserved }

/-- The same outcome, apart from the observer and from what was logged. -/
structure Outcome.Mirrors (o unobserved : Outcome) : Prop where
  service : unobserved.service = o.service.unobserved
  reply : unobserved.reply = o.reply

namespace Service

variable (s : Service) (clock : Clock) (heard : Clocks)

theorem mirrors_answer (reply : Reply) :
    (s.answer reply).Mirrors (s.unobserved.answer reply) := ⟨rfl, rfl⟩

private theorem mirrors_change (caller : String) (command : Command) :
    (s.change clock caller command heard).Mirrors
      (s.unobserved.change clock caller command heard) := by
  have hattempt := s.host.performAs_unobserved clock heard command s.authority (.text caller)
  have hsame : s.unobserved.host = s.host.unobserved := rfl
  have hauthority : s.unobserved.authority = s.authority := rfl
  simp only [change, hsame, hauthority, Effect.answer_eq hattempt, Effect.state_eq hattempt]
  generalize s.host.performAs s.authority clock (.text caller) command heard = e
  obtain ⟨answer, host, log⟩ := e
  cases answer with
  | ok accepted => cases accepted <;> exact ⟨rfl, rfl⟩
  | error f => cases f <;> exact ⟨rfl, rfl⟩

private theorem mirrors_handleBody (r : Request) (route : Route) (body? : Option Value) :
    (s.handleBody clock r route body? heard).Mirrors
      (s.unobserved.handleBody clock r route body? heard) := by
  unfold handleBody
  cases commandOf? route with
  | none =>
    simp only
    cases checkBody body? wallets <;> exact s.mirrors_answer _
  | some check =>
    cases r.caller? with
    | none => exact s.mirrors_answer _
    | some caller =>
      simp only
      cases checkBody body? check with
      | ok command => exact s.mirrors_change clock heard caller command
      | error problems => exact s.mirrors_answer _

private theorem mirrors_handlePost (r : Request) (route : Route) :
    (s.handlePost clock r route heard).Mirrors (s.unobserved.handlePost clock r route heard) := by
  unfold handlePost
  cases bodyContent r with
  | malformed position => exact s.mirrors_answer _
  | unreadable => exact s.mirrors_answer _
  | absent => exact s.mirrors_handleBody clock heard r route none
  | present v => exact s.mirrors_handleBody clock heard r route (some v)

/-- Whatever a route reads is in the registry or in the meters. -/
theorem mirrors_handle (r : Request) (route : Route) (wallet : String) :
    (s.handle clock r route wallet heard).Mirrors
      (s.unobserved.handle clock r route wallet heard) := by
  cases route with
  | batch => exact s.mirrors_handlePost clock heard r .batch
  | setStatus => exact s.mirrors_handlePost clock heard r .setStatus
  | transferAdmin => exact s.mirrors_handlePost clock heard r .transferAdmin
  | setNextContract => exact s.mirrors_handlePost clock heard r .setNextContract
  | _ => exact s.mirrors_answer _

theorem mirrors_route (r : Request) :
    (s.unobserved.route clock r heard).1 = (s.route clock r heard).1 ∧
      (s.route clock r heard).2.Mirrors (s.unobserved.route clock r heard).2 := by
  unfold route
  cases dispatch r.method (pathOf r.target) with
  | handle route wallet => exact ⟨rfl, s.mirrors_handle clock heard r route wallet⟩
  | wrongMethod route => exact ⟨rfl, s.mirrors_answer _⟩
  | page page allowed => exact ⟨rfl, s.mirrors_answer _⟩
  | redirect path => exact ⟨rfl, s.mirrors_answer _⟩
  | unknown => exact ⟨rfl, s.mirrors_answer _⟩

theorem mirrors_serve (duration : Binary64) (r : Request) :
    (s.serve clock duration r heard).Mirrors (s.unobserved.serve clock duration r heard) := by
  obtain ⟨hendpoint, hservice, hreply⟩ := s.mirrors_route clock heard r
  unfold serve
  cases hraised : (s.route clock r heard).2.reply.raised? with
  | none =>
    simp only [hendpoint, hreply, hraised, hservice]
    exact ⟨rfl, rfl⟩
  | some f =>
    simp only [hreply, hraised]
    exact ⟨hservice, hreply⟩

end Service

/-- What can be asked of a service: a command, in the name of a caller if there is one, or a
request. -/
inductive Ask where
  | command (caller? : Option Value) (command : Command)
  | request (duration : Binary64) (request : Request)

/-- Something that is asked at the time of a clock, while recorders hear clocks of their own. -/
structure Attempt where
  clock : Clock
  heard : Clocks
  ask : Ask

namespace Service

/-- What a command comes to, in the name of a caller if there is one. -/
def commanded (s : Service) (clock : Clock) (heard : Clocks) (caller? : Option Value)
    (command : Command) : Effect Host Bool :=
  match caller? with
  | some caller => s.host.performAs s.authority clock caller command heard
  | none => s.host.perform clock command heard

/-- The service after an attempt, and the result of the command or the reply to the request. -/
def attempt (s : Service) (a : Attempt) : Service × (Except Failure Bool ⊕ Reply) :=
  match a.ask with
  | .command caller? command =>
    let done := s.commanded a.clock a.heard caller? command
    ({ s with host := done.state }, .inl done.answer)
  | .request duration request =>
    let o := s.serve a.clock duration request a.heard
    (o.service, .inr o.reply)

private theorem commanded_unobserved (s : Service) (clock : Clock) (heard : Clocks)
    (caller? : Option Value) (command : Command) :
    (s.unobserved.commanded clock heard caller? command).outcome =
      Prod.map Host.unobserved id (s.commanded clock heard caller? command).outcome := by
  cases caller? with
  | none => exact s.host.perform_unobserved clock heard command
  | some caller => exact s.host.performAs_unobserved clock heard command s.authority caller

theorem attempt_unobserved (s : Service) (a : Attempt) :
    s.unobserved.attempt a = ((s.attempt a).1.unobserved, (s.attempt a).2) := by
  obtain ⟨clock, heard, ask⟩ := a
  cases ask with
  | command caller? command =>
    have hdone := s.commanded_unobserved clock heard caller? command
    simp only [attempt, Effect.answer_eq hdone, Effect.state_eq hdone]
    rfl
  | request duration request =>
    obtain ⟨hservice, hreply⟩ := s.mirrors_serve clock heard duration request
    simp only [attempt, hservice, hreply]

end Service

open Service (attempt) in
/-- Whoever observes a registry, all attempts are answered, and each one leaves the registry and the
store, as if the observer ignored everything. -/
theorem observers_have_no_influence (s : Service) (attempts : List Attempt) :
    Run.answers attempt s attempts = Run.answers attempt s.unobserved attempts ∧
      ∀ n, let observed := Run.after attempt s (attempts.take n)
        let unobserved := Run.after attempt s.unobserved (attempts.take n)
        observed.host.registry = unobserved.host.registry ∧
          observed.store? = unobserved.store? := by
  refine ⟨(Run.run_map attempt Service.attempt_unobserved s attempts).2.symm, ?_⟩
  intro n observed unobserved
  have hsame : unobserved = observed.unobserved :=
    (Run.run_map attempt Service.attempt_unobserved s (attempts.take n)).1
  rw [hsame]
  exact ⟨rfl, rfl⟩

end Http
end WalletTrust
