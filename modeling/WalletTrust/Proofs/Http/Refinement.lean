import WalletTrust.Proofs.Authority.Confinement
import WalletTrust.Proofs.Http.Durability
import WalletTrust.Proofs.Registry.EventLog

/-!
# Requests as guarded calls

A service is its registry with a guard in front: a run of requests leaves the host that the calls
they stand for leave, made one after the other on behalf of the callers that the requests name.
Requests that stand for no call change nothing.
-/

namespace WalletTrust.Http

/-- The guarded call that an exchange stands for, if its body is usable and its caller is named. -/
def Exchange.call? (e : Exchange) : Option GuardedCall :=
  match e.request.command?, e.request.caller? with
  | some command, some caller => some ⟨e.clock, .text caller, command⟩
  | _, _ => none

theorem Exchange.call?_eq_none_iff {e : Exchange} :
    e.call? = none ↔ e.request.command? = none ∨ e.request.caller? = none := by
  unfold call?
  cases e.request.command? <;> cases e.request.caller? <;> simp

theorem Exchange.call?_eq_some {e : Exchange} {c : GuardedCall} (h : e.call? = some c) :
    ∃ command caller, e.request.command? = some command ∧ e.request.caller? = some caller ∧
      c = ⟨e.clock, .text caller, command⟩ := by
  unfold call? at h
  split at h
  · rename_i command caller hcommand hcaller
    exact ⟨command, caller, hcommand, hcaller, (Option.some.inj h).symm⟩
  · cases h

def refusalReply (operation : String) : Reply :=
  .fields 403 [(.text "error", .text "UNAUTHORIZED"),
    (.text "message", .text ("Caller not authorized for " ++ operation)),
    (.text "operation", .text operation)]

/-- What is asked of a request for a change that names no caller. -/
def anonymousReply : Reply := .detail 401 (callerHeader ++ " header required")

theorem failureReply_unauthorized (caller : Value) (operation : String) :
    Service.failureReply (.unauthorized caller (.text operation)) = refusalReply operation := by
  have hmessage : (Failure.unauthorized caller (.text operation)).message =
      .text ("Caller not authorized for " ++ operation) := by
    simp only [Failure.message, Value.display, ← Text.toPoints_append, Value.ofPoints,
      Text.ofPoints?_toPoints]
  simp [Service.failureReply, Service.documentReply, Failure.body, Failure.code?, hmessage,
    writable, anyPart, anyEntry, isBytes, isUnwritable, isBrokenText, refusalReply, Reply.fields]

/-- A reply reports what the call of a caller on a host comes to. -/
structure Reply.Reports (reply : Reply) (h : Host) (clock : Clock) (caller : String)
    (command : Command) : Prop where
  refused : reply.status = 403 ↔ caller ≠ h.registry.admin
  refusal : caller ≠ h.registry.admin → reply = refusalReply command.operation
  accepted : caller = h.registry.admin →
    (reply.status = 200 ∧ reply.IsAccepted ↔ (h.call ⟨clock, command⟩).2 = .ok true)
  rejected : caller = h.registry.admin → (h.call ⟨clock, command⟩).2 ≠ .ok true →
    reply = Service.changeReply 400 false false

namespace Reply.Reports

variable {h : Host} {clock : Clock} {caller : String} {command : Command}

theorem of_stranger (hcaller : caller ≠ h.registry.admin) :
    (refusalReply command.operation).Reports h clock caller command := by
  refine ⟨?_, fun _ => rfl, fun h => absurd h hcaller, fun h => absurd h hcaller⟩
  simp [refusalReply, Reply.fields, Reply.document, hcaller]

private theorem of_accepted {persisted : Bool} (hcall : (h.call ⟨clock, command⟩).2 = .ok true) :
    (Service.changeReply 200 true persisted).Reports h clock h.registry.admin command := by
  refine ⟨?_, fun hne => absurd rfl hne, fun _ => ⟨fun _ => hcall, fun _ => ⟨rfl, ?_⟩⟩, ?_⟩
  · simp [Service.changeReply, Reply.fields, Reply.document]
  · exact Service.isAccepted_changeReply.2 rfl
  · exact fun _ hrejected => absurd hcall hrejected

theorem of_rejected (hcall : (h.call ⟨clock, command⟩).2 = .ok false) :
    (Service.changeReply 400 false false).Reports h clock h.registry.admin command := by
  refine ⟨?_, fun hne => absurd rfl hne, fun _ => ?_, fun _ _ => rfl⟩
  · simp [Service.changeReply, Reply.fields, Reply.document]
  · simp [hcall, Service.changeReply, Reply.fields, Reply.document]

end Reply.Reports

namespace Service

private theorem handle_of_commandOf? {route : Route} (h : (commandOf? route).isSome) (s : Service)
    (clock : Clock) (r : Request) (wallet : String) :
    s.handle clock r route wallet = s.handlePost clock r route := by
  cases route with
  | setStatus => rfl
  | transferAdmin => rfl
  | setNextContract => rfl
  | _ => cases h

private theorem route_of_no_caller {r : Request} {command : Command}
    (hcommand : r.command? = some command) (hcaller : r.caller? = none) (s : Service)
    (clock : Clock) :
    (s.route clock r).2 = s.answer anonymousReply := by
  unfold Request.command? at hcommand
  unfold route
  split at hcommand
  · rename_i route wallet hdispatch
    unfold Request.commandOn? at hcommand
    split at hcommand
    · rename_i check body hcheck hbody
      rw [hdispatch]
      simp only [handle_of_commandOf? (Option.isSome_of_eq_some hcheck), handlePost, hbody,
        handleBody, hcheck, hcaller]
      rfl
    · cases hcommand
  · cases hcommand

theorem serve_of_call {s : Service} (hs : s.authority = .admin) {r : Request} {command : Command}
    {caller : String} (hcommand : r.command? = some command) (hcaller : r.caller? = some caller)
    (clock : Clock) (duration : Binary64) :
    let o := s.serve clock duration r
    o.service.authority = .admin ∧
      o.service.host = (s.host.callAs ⟨clock, .text caller, command⟩).1 ∧
      o.reply = (s.change clock caller command).reply := by
  intro o
  obtain ⟨hhost, hauthority, -, hreply⟩ := s.serve_spec clock duration r
  rw [route_of_command hcommand hcaller] at hhost hauthority hreply
  obtain ⟨hadmin, hcall, -⟩ := change_spec hs clock caller command
  exact ⟨hauthority.trans hadmin, hhost.trans hcall, hreply⟩

private theorem serve_of_no_call (s : Service) {r : Request}
    (h : r.command? = none ∨ r.caller? = none) (clock : Clock) (duration : Binary64) :
    let o := s.serve clock duration r
    o.service.host = s.host ∧ o.service.authority = s.authority ∧ o.service.store? = s.store? := by
  intro o
  obtain ⟨hhost, hauthority, hstore, -⟩ := s.serve_spec clock duration r
  have hroute : ∃ reply : Reply, (s.route clock r).2 = s.answer reply := by
    rcases s.answers_route clock r with ⟨command, caller, hcommand, hcaller, -⟩ | ⟨-, reply, -, hr⟩
    · rcases h with h | h
      · cases hcommand.symm.trans h
      · cases hcaller.symm.trans h
    · exact ⟨reply, hr⟩
  obtain ⟨reply, hroute⟩ := hroute
  rw [hroute] at hhost hauthority hstore
  exact ⟨hhost, hauthority, hstore⟩

/-- An exchange is served on the same service, but for the store that the driver gives it. -/
theorem exchange_spec (s : Service) (e : Exchange) :
    ∃ store?, let o := { s with store? }.serve e.clock e.duration e.request
      (s.exchange e).1.host = o.service.host ∧ (s.exchange e).1.authority = o.service.authority ∧
        (s.exchange e).2 = o.reply ∧ (s.exchange e).1.meters = o.service.meters ∧
          store?.isSome = s.store?.isSome ∧
          (s.exchange e).1.store?.isSome = o.service.store?.isSome := by
  unfold exchange
  split
  · rename_i store f hstore _
    refine ⟨some (store.failing f), rfl, rfl, rfl, rfl, ?_, ?_⟩
    · rw [hstore, Option.isSome_some, Option.isSome_some]
    · exact Option.isSome_map
  · exact ⟨s.store?, rfl, rfl, rfl, rfl, rfl, rfl⟩

/-- A store that serving leaves as it is given stays as it is. -/
theorem exchange_store {s : Service} {e : Exchange}
    (h : ∀ store?, ({ s with store? }.serve e.clock e.duration e.request).service.store? = store?) :
    (s.exchange e).1.store? = s.store? := by
  unfold exchange
  split
  · rename_i store f hstore hfault
    simp only [h, hstore, Option.map_some]
    rfl
  · exact h s.store?

theorem exchange_of_no_call (s : Service) {e : Exchange}
    (h : e.request.command? = none ∨ e.request.caller? = none) :
    let next := s.exchange e
    next.1.host = s.host ∧ next.1.authority = s.authority ∧ next.1.store? = s.store? := by
  intro next
  obtain ⟨store?, hhost, hauthority, -⟩ := s.exchange_spec e
  obtain ⟨hsame, hadmin, -⟩ := { s with store? }.serve_of_no_call h e.clock e.duration
  refine ⟨hhost.trans hsame, hauthority.trans hadmin, ?_⟩
  exact exchange_store fun store? => ({ s with store? }.serve_of_no_call h e.clock e.duration).2.2

theorem exchange_host {s : Service} (hs : s.authority = .admin) (e : Exchange) :
    (s.exchange e).1.authority = .admin ∧
      (s.exchange e).1.host = e.call?.elim s.host fun c => (s.host.callAs c).1 := by
  cases hcall : e.call? with
  | none =>
    obtain ⟨hhost, hauthority, -⟩ := s.exchange_of_no_call (Exchange.call?_eq_none_iff.1 hcall)
    exact ⟨hauthority.trans hs, hhost⟩
  | some c =>
    obtain ⟨command, caller, hcommand, hcaller, rfl⟩ := Exchange.call?_eq_some hcall
    obtain ⟨store?, hhost, hauthority, -⟩ := s.exchange_spec e
    obtain ⟨hadmin, hserved, -⟩ :=
      serve_of_call (s := { s with store? }) hs hcommand hcaller e.clock e.duration
    exact ⟨hauthority.trans hadmin, hhost.trans hserved⟩

/-- A change is answered as its call on the host is: refused, accepted or rejected. -/
theorem reports_change {s : Service} (hs : s.authority = .admin)
    (hadmin : IsAddress s.host.registry.admin) {clock : Clock} (hclock : clock ≠ none)
    (caller : String) (command : Command) :
    (s.change clock caller command).reply.Reports s.host clock caller command := by
  obtain ⟨-, -, hanswer⟩ := change_spec hs clock caller command
  by_cases hc : caller = s.host.registry.admin
  · subst hc
    have hcall : s.host.callAs ⟨clock, .text s.host.registry.admin, command⟩ =
        s.host.call ⟨clock, command⟩ := Host.callAs_admin hadmin rfl
    obtain ⟨now, rfl⟩ := Option.ne_none_iff_exists'.1 hclock
    have htimely : (s.host.call ⟨some now, command⟩).2 =
        .ok (Call.mk (some now) command).write?.isSome := by
      rw [Host.call_answer]
      exact Call.answer_timely (now, command)
    rw [hcall, htimely] at hanswer
    cases hw : (Call.mk (some now) command).write?.isSome with
    | true =>
      rw [hw] at hanswer htimely
      rw [hanswer.2]
      exact .of_accepted htimely
    | false =>
      rw [hw] at hanswer htimely
      rw [hanswer.2]
      exact .of_rejected htimely
  · have hne : (Value.text caller) ≠ .text s.host.registry.admin := fun h => hc (Value.text.inj h)
    have hcall := Host.callAs_stranger hadmin (c := ⟨clock, .text caller, command⟩) (.text caller)
      hne
    rw [hcall] at hanswer
    rw [hanswer.2, GuardedCall.refusal, failureReply_unauthorized]
    exact .of_stranger hc

end Service

open Service (exchange)

/-- What an exchange leaves and replies, next to the service as it was. -/
structure Exchange.Refines (e : Exchange) (s : Service) : Prop where
  host : (s.exchange e).1.host = e.call?.elim s.host fun c => (s.host.callAs c).1
  store : e.call? = none → (s.exchange e).1.store? = s.store?
  anonymous : e.request.command?.isSome → e.request.caller? = none →
    (s.exchange e).2 = anonymousReply
  reports : ∀ command caller, e.request.command? = some command →
    e.request.caller? = some caller → (s.exchange e).2.Reports s.host e.clock caller command

theorem refines_exchange {s : Service} (hs : s.authority = .admin)
    (hadmin : IsAddress s.host.registry.admin) {e : Exchange} (hclock : e.clock ≠ none) :
    e.Refines s := by
  refine ⟨(Service.exchange_host hs e).2, ?_, ?_, ?_⟩
  · intro hnone
    exact (s.exchange_of_no_call (Exchange.call?_eq_none_iff.1 hnone)).2.2
  · intro hsome hcaller
    obtain ⟨command, hcommand⟩ := Option.isSome_iff_exists.1 hsome
    obtain ⟨store?, -, -, hreply, -⟩ := s.exchange_spec e
    obtain ⟨-, -, -, hserved⟩ := { s with store? }.serve_spec e.clock e.duration e.request
    rw [hreply, hserved, Service.route_of_no_caller hcommand hcaller]
    rfl
  · intro command caller hcommand hcaller
    obtain ⟨store?, -, -, hreply, -⟩ := s.exchange_spec e
    obtain ⟨-, -, hchange⟩ :=
      Service.serve_of_call (s := { s with store? }) hs hcommand hcaller e.clock e.duration
    rw [hreply, hchange]
    exact Service.reports_change (s := { s with store? }) hs hadmin hclock caller command

end WalletTrust.Http
