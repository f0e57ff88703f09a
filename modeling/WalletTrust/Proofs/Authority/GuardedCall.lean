import WalletTrust.Authority
import WalletTrust.Proofs.Outcome
import WalletTrust.Proofs.Registry.WellFormed

/-!
# Calls on behalf of a caller

Where only the administrator may change a registry, a call of the administrator is the call itself,
and a call of anybody else is refused before its command is looked at.
-/

namespace WalletTrust

structure GuardedCall where
  clock : Clock
  caller : Value
  command : Command

namespace GuardedCall

/-- The call that is carried out if the caller is not refused. -/
def call (c : GuardedCall) : Call := ⟨c.clock, c.command⟩

def refusal (c : GuardedCall) : Failure := .unauthorized c.caller (.text c.command.operation)

end GuardedCall

/-- Who can make a call: nobody, or whom a string names. A status is the string of its name. -/
inductive IsCaller : Value → Prop
  | nobody : IsCaller .null
  | text (s : String) : IsCaller (.text s)
  | broken (points : Text.Points) : IsCaller (.broken points)
  | status (s : Status) : IsCaller (.status s)

/-- A caller whom a string names can be shown in the log, so that a refusal of it comes about. -/
theorem Address.abbreviateCaller_of_isCaller {caller : Value} (h : IsCaller caller) :
    ∃ shown, abbreviateCaller caller = .ok shown ∧ Json.check shown = .ok () := by
  unfold abbreviateCaller
  split
  · exact ⟨_, rfl, rfl⟩
  · cases h with
    | nobody => contradiction
    | text s => exact ⟨_, rfl, Json.check_ofPoints _⟩
    | broken points => exact ⟨_, rfl, Json.check_ofPoints _⟩
    | status s => exact ⟨_, rfl, rfl⟩

theorem Status.not_isAddress_name (s : Status) : ¬ IsAddress s.name := by
  cases s <;> decide

/-- Of all values, only the text of the address equals the administrator. -/
theorem Registry.isAdmin_iff {r : Registry} (hr : IsAddress r.admin) {caller : Value} :
    r.isAdmin caller = true ↔ caller = .text r.admin := by
  cases caller with
  | status s =>
    have hs : s.name ≠ r.admin := fun hs => s.not_isAddress_name (hs ▸ hr)
    simp [isAdmin, Value.same, Value.sameAtom, Value.integer?, Value.string?, hs]
  | _ => simp [isAdmin, Value.same, Value.sameAtom, Value.integer?, Value.string?]

namespace Authority

/-- An address is no empty text, so that asking for one decides nothing. -/
theorem permits_eq_isAdmin {r : Registry} (hr : IsAddress r.admin) (caller : Value) :
    admin.permits r caller = .ok (r.isAdmin caller) := by
  simp only [permits]
  cases h : r.isAdmin caller with
  | false => simp
  | true =>
    rw [Registry.isAdmin_iff hr] at h
    simp [h, Registry.isEmpty_address hr]

theorem permits_admin {r : Registry} (hr : IsAddress r.admin) :
    admin.permits r (.text r.admin) = .ok true := by
  rw [permits_eq_isAdmin hr, (Registry.isAdmin_iff hr).2 rfl]

theorem permits_stranger {r : Registry} (hr : IsAddress r.admin) {caller : Value}
    (h : caller ≠ .text r.admin) : admin.permits r caller = .ok false := by
  rw [permits_eq_isAdmin hr, Bool.eq_false_iff.2 (mt (Registry.isAdmin_iff hr).1 h)]

/-- Before a refused caller is told anything, it is shortened and written. -/
theorem refuse_answer (caller : Value) (operation : String) :
    (refuse caller operation).answer = (do
      let shown ← Address.abbreviateCaller caller
      Json.check shown
      .error (.unauthorized caller (.text operation))) := by
  rw [refuse, Logged.bind_answer, Logged.ofExcept_answer]
  congr 1
  funext shown
  rw [Logged.bind_answer, Logged.report_answer,
    Log.Entry.check_eq ⟨by simp, by simp [Log.reservedNames]⟩]
  show (Json.check shown >>= fun _ => .ok ()) >>= _ = _
  cases Json.check shown <;> rfl

theorem refuse_of_isCaller {caller : Value} (hcaller : IsCaller caller) (operation : String) :
    (refuse caller operation).answer = .error (.unauthorized caller (.text operation)) := by
  obtain ⟨shown, hshown, hcheck⟩ := Address.abbreviateCaller_of_isCaller hcaller
  rw [refuse_answer, hshown]
  simp only [bind, Except.bind, hcheck]

theorem require_answer (a : Authority) (r : Registry) (caller : Value) (operation : String) :
    (a.require r caller operation).answer = a.permits r caller >>= fun permitted =>
      if permitted then .ok () else (refuse caller operation).answer := by
  rw [require, Logged.bind_answer, Logged.ofExcept_answer]
  congr 1
  funext permitted
  cases permitted <;> rfl

end Authority

namespace Host

/-- A caller either gets no further than the authority, which leaves everything as it is, or its
command is carried out like any other. -/
theorem performAs_cases (h : Host) (a : Authority) (clock : Clock) (caller : Value)
    (command : Command) (heard : Clocks) :
    (∃ f, (a.require h.registry caller command.operation).answer = .error f ∧
      (h.performAs a clock caller command heard).outcome = (h, .error f)) ∨
    ((a.require h.registry caller command.operation).answer = .ok () ∧
      (h.performAs a clock caller command heard).outcome =
        (h.perform clock command heard).outcome) := by
  rw [performAs, Process.bind_apply, Process.ask_apply]
  cases (a.require h.registry caller command.operation).answer with
  | error f => exact .inl ⟨f, rfl, rfl⟩
  | ok _ => exact .inr ⟨rfl, rfl⟩

theorem performAs_of_error {h : Host} {a : Authority} {caller : Value} {command : Command}
    {f : Failure} (hf : (a.require h.registry caller command.operation).answer = .error f)
    (clock : Clock) (heard : Clocks) :
    (h.performAs a clock caller command heard).outcome = (h, .error f) := by
  rcases h.performAs_cases a clock caller command heard with ⟨g, hg, houtcome⟩ | ⟨hok, -⟩
  · cases hf.symm.trans hg
    exact houtcome
  · cases hf.symm.trans hok

theorem performAs_of_ok {h : Host} {a : Authority} {caller : Value} {command : Command}
    (hok : (a.require h.registry caller command.operation).answer = .ok ()) (clock : Clock)
    (heard : Clocks) :
    (h.performAs a clock caller command heard).outcome =
      (h.perform clock command heard).outcome := by
  rcases h.performAs_cases a clock caller command heard with ⟨g, hg, -⟩ | ⟨-, houtcome⟩
  · cases hok.symm.trans hg
  · exact houtcome

/-- A caller whose command is not accepted has changed nothing. -/
theorem performAs_unchanged {h : Host} {a : Authority} {clock : Clock} {heard : Clocks}
    {caller : Value} {command : Command}
    (hnot : (h.performAs a clock caller command heard).answer ≠ .ok true) :
    (h.performAs a clock caller command heard).state = h := by
  rcases h.performAs_cases a clock caller command heard with ⟨f, -, houtcome⟩ | ⟨-, houtcome⟩
  · exact Effect.state_eq houtcome
  · rw [Effect.answer_eq houtcome] at hnot
    exact (Effect.state_eq houtcome).trans (perform_unchanged hnot)

theorem performAs_admin {h : Host} (hadmin : IsAddress h.registry.admin) (clock : Clock)
    (command : Command) :
    (h.performAs .admin clock (.text h.registry.admin) command).outcome =
      (h.perform clock command).outcome := by
  refine performAs_of_ok ?_ clock _
  rw [Authority.require_answer, Authority.permits_admin hadmin]
  rfl

theorem performAs_stranger {h : Host} (hadmin : IsAddress h.registry.admin) (clock : Clock)
    {caller : Value} (hcaller : IsCaller caller) (hne : caller ≠ .text h.registry.admin)
    (command : Command) :
    (h.performAs .admin clock caller command).outcome =
      (h, .error (.unauthorized caller (.text command.operation))) := by
  refine performAs_of_error ?_ clock _
  rw [Authority.require_answer, Authority.permits_stranger hadmin hne]
  exact Authority.refuse_of_isCaller hcaller _

/-- The host after a call that only the administrator may make, and the answer. -/
def callAs (h : Host) (c : GuardedCall) : Host × Except Failure Bool :=
  (h.performAs .admin c.clock c.caller c.command).outcome

theorem callAs_admin {h : Host} (hadmin : IsAddress h.registry.admin) {c : GuardedCall}
    (hc : c.caller = .text h.registry.admin) : h.callAs c = h.call c.call := by
  rw [callAs, hc, performAs_admin hadmin]
  rfl

theorem callAs_stranger {h : Host} (hadmin : IsAddress h.registry.admin) {c : GuardedCall}
    (hcaller : IsCaller c.caller) (hc : c.caller ≠ .text h.registry.admin) :
    h.callAs c = (h, .error c.refusal) := performAs_stranger hadmin c.clock hcaller hc c.command

/-- What holds of a registry before a call, and with the write of the call, holds after it. -/
theorem registry_callAs {P : Registry → Prop} {h : Host} (hadmin : IsAddress h.registry.admin)
    {c : GuardedCall} (hcaller : IsCaller c.caller) (hbefore : P h.registry)
    (hput : ∀ w, c.call.write? = some w → P (h.registry.put w)) :
    P (h.callAs c).1.registry := by
  by_cases hc : c.caller = .text h.registry.admin
  · rw [callAs_admin hadmin hc]
    cases hw : c.call.write? with
    | none => rwa [call_of_no_write hw]
    | some w =>
      rw [call_of_write hw]
      exact hput w hw
  · rwa [callAs_stranger hadmin hcaller hc]

theorem wellFormed_callAs {h : Host} (hr : h.registry.WellFormed) {c : GuardedCall}
    (hcaller : IsCaller c.caller) : (h.callAs c).1.registry.WellFormed :=
  registry_callAs hr.admin hcaller hr fun _ hw => Registry.wellFormed_put hr hw

end Host
end WalletTrust
