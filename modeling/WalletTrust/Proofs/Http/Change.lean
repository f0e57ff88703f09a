import WalletTrust.Http.Service
import WalletTrust.Proofs.Authority.GuardedCall

/-!
# What a request changes

A request for a change whose body can be used and whose caller is named makes one call on behalf of
this caller. Every other request leaves the host and the store alone, and its reply says nothing of
success.
-/

namespace WalletTrust.Http

def Reply.field? (r : Reply) (name : String) : Option Value :=
  match r.content with
  | .document (.map entries) => Value.field? name entries
  | _ => none

def Reply.IsAccepted (r : Reply) : Prop := r.field? "success" = some (.bool true)

def Reply.IsPersisted (r : Reply) : Prop := r.field? "persisted" = some (.bool true)

/-- A reply that is not about a change. -/
structure Reply.IsPlain (r : Reply) : Prop where
  success : r.field? "success" = none
  persisted : r.field? "persisted" = none

namespace Reply

theorem IsPlain.not_isAccepted {r : Reply} (h : r.IsPlain) : ¬ r.IsAccepted := by
  rw [IsAccepted, h.success]
  rintro ⟨⟩

theorem IsPlain.not_isPersisted {r : Reply} (h : r.IsPlain) : ¬ r.IsPersisted := by
  rw [IsPersisted, h.persisted]
  rintro ⟨⟩

theorem isPlain_fields (status : Nat) {entries : List (Value × Value)}
    (hsuccess : Value.field? "success" entries = none)
    (hpersisted : Value.field? "persisted" entries = none) : (fields status entries).IsPlain :=
  ⟨hsuccess, hpersisted⟩

theorem isPlain_detail (status : Nat) (text : String) : (detail status text).IsPlain :=
  isPlain_fields status (by simp [Value.field?]) (by simp [Value.field?])

theorem isPlain_failed (f : Failure) : (failed f).IsPlain := ⟨rfl, rfl⟩

end Reply

namespace Service

private theorem eq_of_writable {v w : Value} (h : writable v = .ok w) : w = v := by
  unfold writable at h
  split at h
  · cases h
  · split at h
    · cases h
    · split at h
      · cases h
      · exact (Except.ok.inj h).symm

theorem isPlain_documentReply (status : Nat) {entries : List (Value × Value)}
    (hsuccess : Value.field? "success" entries = none)
    (hpersisted : Value.field? "persisted" entries = none) :
    (documentReply status (.map entries)).IsPlain := by
  unfold documentReply
  split
  · rename_i v hv
    rw [eq_of_writable hv]
    exact ⟨hsuccess, hpersisted⟩
  · exact Reply.isPlain_failed _

theorem isPlain_failureReply (f : Failure) : (failureReply f).IsPlain := by
  have hbody : Value.field? "success" f.body = none ∧ Value.field? "persisted" f.body = none := by
    cases f <;> simp [Failure.body, Value.field?]
  unfold failureReply
  split
  · exact isPlain_documentReply 403 hbody.1 hbody.2
  · split
    · exact isPlain_documentReply 400 hbody.1 hbody.2
    · exact Reply.isPlain_failed f

theorem isPlain_problemReply (problems : List Problem) : (problemReply problems).IsPlain := by
  unfold problemReply
  split
  · exact isPlain_documentReply 422 (by simp [Value.field?]) (by simp [Value.field?])
  · exact Reply.isPlain_failed _

private theorem field?_of_statusFields {wallet : Value} {record : Record}
    {entries : List (Value × Value)} (h : statusFields wallet record = .ok entries) :
    Value.field? "success" entries = none ∧ Value.field? "persisted" entries = none := by
  obtain ⟨status, -, h⟩ := bind_ok h
  obtain ⟨score, -, h⟩ := bind_ok h
  obtain ⟨time, -, h⟩ := bind_ok h
  cases h
  simp [Value.field?]

private theorem isPlain_statusReply (r : Registry) (wallet : String) :
    (statusReply r wallet).IsPlain := by
  unfold statusReply
  split
  · rename_i entries h
    exact Reply.isPlain_fields 200 (field?_of_statusFields h).1 (field?_of_statusFields h).2
  · exact Reply.isPlain_failed _

private theorem isPlain_lookupReply (r : Registry) (wallet : String) :
    (lookupReply r wallet).IsPlain := by
  unfold lookupReply
  simp only
  split
  · exact Reply.isPlain_detail _ _
  · exact Reply.isPlain_detail _ _
  · split
    · rename_i entries h
      obtain ⟨status, -, h⟩ := bind_ok h
      obtain ⟨score, -, h⟩ := bind_ok h
      obtain ⟨time, -, h⟩ := bind_ok h
      cases h
      exact Reply.isPlain_fields 200 (by simp [Value.field?]) (by simp [Value.field?])
    · exact Reply.isPlain_failed _

private theorem isPlain_batchReply (r : Registry) (wallets : List Value) :
    (batchReply r wallets).IsPlain := by
  unfold batchReply
  split
  · split
    · exact Reply.isPlain_failed _
    · exact Reply.isPlain_fields 200 (by simp [Value.field?]) (by simp [Value.field?])
  · exact Reply.isPlain_failed _

theorem isPlain_metricsReply (m : Meters) : (metricsReply m).IsPlain := by
  unfold metricsReply
  split
  · exact ⟨rfl, rfl⟩
  · exact Reply.isPlain_failed _

end Service

/-- Replies that find fault with the body of a request or miss its caller. -/
inductive Reply.IsComplaint : Reply → Prop
  | problems (problems : List Problem) : IsComplaint (Service.problemReply problems)
  | unreadable : IsComplaint (detail 400 "There was an error parsing the body")
  | anonymous : IsComplaint (detail 401 (callerHeader ++ " header required"))

/-- Replies to requests that are not for a change. -/
inductive Reply.IsInformation : Reply → Prop
  | fields {entries : List (Value × Value)} (hsuccess : Value.field? "success" entries = none)
      (hpersisted : Value.field? "persisted" entries = none) : IsInformation (fields 200 entries)
  | status (r : Registry) (wallet : String) : IsInformation (Service.statusReply r wallet)
  | lookup (r : Registry) (wallet : String) : IsInformation (Service.lookupReply r wallet)
  | batch (r : Registry) (wallets : List Value) : IsInformation (Service.batchReply r wallets)
  | metrics (m : Meters) : IsInformation (Service.metricsReply m)
  | wrongMethod (allowed : String) : IsInformation (wrongMethod allowed)
  | page (p : Page) : IsInformation (page p)
  | redirect (location : String) : IsInformation { status := 307, location? := some location }
  | unknown : IsInformation (detail 404 "Not Found")

namespace Reply

theorem IsComplaint.isPlain {r : Reply} (h : r.IsComplaint) : r.IsPlain := by
  cases h with
  | problems problems => exact Service.isPlain_problemReply problems
  | unreadable => exact isPlain_detail _ _
  | anonymous => exact isPlain_detail _ _

theorem IsInformation.isPlain {r : Reply} (h : r.IsInformation) : r.IsPlain := by
  cases h with
  | fields hsuccess hpersisted => exact isPlain_fields 200 hsuccess hpersisted
  | status r wallet => exact Service.isPlain_statusReply r wallet
  | lookup r wallet => exact Service.isPlain_lookupReply r wallet
  | batch r wallets => exact Service.isPlain_batchReply r wallets
  | metrics m => exact Service.isPlain_metricsReply m
  | wrongMethod allowed =>
    have hdetail := isPlain_detail 405 "Method Not Allowed"
    exact ⟨hdetail.success, hdetail.persisted⟩
  | page p => exact ⟨rfl, rfl⟩
  | redirect location => exact ⟨rfl, rfl⟩
  | unknown => exact isPlain_detail _ _

end Reply

/-- The command of a request on a route, if the route is for changes and the body can be used. -/
def Request.commandOn? (r : Request) (route : Route) : Option Command :=
  match Service.commandOf? route, bodyContent r with
  | some check, .present body => (check body).toOption
  | _, _ => none

/-- The command of a request for a change whose body can be used. -/
def Request.command? (r : Request) : Option Command :=
  match dispatch r.method (pathOf r.target) with
  | .handle route _ => r.commandOn? route
  | _ => none

/-- The operation that a route is for, if it is for a change. -/
def Route.operation? : Route → Option String
  | .setStatus => some "set_status"
  | .transferAdmin => some "transfer_admin"
  | .setNextContract => some "set_next_contract"
  | _ => none

/-- The operation that a request is for by its method and its path, whatever else is in it. -/
def Request.operation? (r : Request) : Option String :=
  match dispatch r.method (pathOf r.target) with
  | .handle route _ => route.operation?
  | _ => none

namespace Service

private theorem operation_of_statusCommand {body : Value} {command : Command}
    (h : statusCommand body = .ok command) : command.operation = "set_status" := by
  obtain ⟨entries, -, h⟩ := bind_ok h
  obtain ⟨parts, -, h⟩ := bind_ok h
  cases h
  rfl

private theorem operation_of_addressCommand {name : String} {make : Value → Command} {body : Value}
    {command : Command} (h : addressCommand name make body = .ok command) {operation : String}
    (hmake : ∀ address, (make address).operation = operation) : command.operation = operation := by
  obtain ⟨entries, -, h⟩ := bind_ok h
  obtain ⟨address, -, rfl⟩ := map_ok h
  exact hmake address

/-- A route for a change takes commands of its operation. -/
theorem operation?_of_commandOf? {route : Route} {check : Value → Checked Command}
    (hcheck : commandOf? route = some check) {body : Value} {command : Command}
    (h : check body = .ok command) : route.operation? = some command.operation := by
  cases route with
  | setStatus =>
    cases hcheck
    rw [operation_of_statusCommand h]
    rfl
  | transferAdmin =>
    cases hcheck
    rw [operation_of_addressCommand h fun _ => rfl]
    rfl
  | setNextContract =>
    cases hcheck
    rw [operation_of_addressCommand h fun _ => rfl]
    rfl
  | _ => cases hcheck

/-- All that can become of a request: a change on behalf of a caller in the operation that the
request is for, a complaint, or information, which no operation comes to. -/
inductive Handles (s : Service) (clock : Clock) (heard : Clocks) (r : Request)
    (operation? : Option String) (command? : Option Command) (o : Outcome) : Prop
  | change {command : Command} {caller : String} (hcommand : command? = some command)
      (hoperation : operation? = some command.operation) (hcaller : r.caller? = some caller)
      (ho : o = s.change clock caller command heard)
  | complain {reply : Reply} (hnone : command? = none ∨ r.caller? = none)
      (hreply : reply.IsComplaint) (ho : o = s.answer reply)
  | inform {reply : Reply} (hnone : command? = none) (hoperation : operation? = none)
      (hreply : reply.IsInformation) (ho : o = s.answer reply)

private theorem handles_handlePost (s : Service) (clock : Clock) (heard : Clocks) (r : Request)
    (route : Route) :
    s.Handles clock heard r route.operation? (r.commandOn? route)
      (s.handlePost clock r route heard) := by
  have hcomplaint : ∀ {reply : Reply}, reply.IsComplaint →
      s.Handles clock heard r route.operation? none (s.answer reply) :=
    fun hreply => .complain (.inl rfl) hreply rfl
  unfold handlePost Request.commandOn?
  cases hbody : bodyContent r with
  | malformed position => cases commandOf? route <;> exact hcomplaint (.problems _)
  | unreadable => cases commandOf? route <;> exact hcomplaint .unreadable
  | absent =>
    unfold handleBody
    cases commandOf? route with
    | none => exact hcomplaint (.problems _)
    | some check =>
      cases r.caller? with
      | none => exact hcomplaint .anonymous
      | some caller => exact hcomplaint (.problems _)
  | present body =>
    unfold handleBody
    cases hcheck : commandOf? route with
    | none =>
      have hoperation : route.operation? = none := by
        cases route with
        | setStatus => cases hcheck
        | transferAdmin => cases hcheck
        | setNextContract => cases hcheck
        | _ => rfl
      simp only [checkBody]
      cases wallets body with
      | ok wallets => exact .inform rfl hoperation (.batch _ wallets) rfl
      | error problems => exact hcomplaint (.problems problems)
    | some check =>
      simp only [checkBody]
      cases hcaller : r.caller? with
      | none => exact .complain (.inr hcaller) .anonymous rfl
      | some caller =>
        cases hcommand : check body with
        | ok command => exact .change rfl (operation?_of_commandOf? hcheck hcommand) hcaller rfl
        | error problems => exact hcomplaint (.problems problems)

/-- What becomes of a request on its route. -/
theorem handles_route (s : Service) (clock : Clock) (heard : Clocks) (r : Request) :
    s.Handles clock heard r r.operation? r.command? (s.route clock r heard).2 := by
  unfold route Request.command? Request.operation?
  cases dispatch r.method (pathOf r.target) with
  | handle route wallet =>
    cases route with
    | health =>
      exact .inform rfl rfl (.fields (by simp [Value.field?]) (by simp [Value.field?])) rfl
    | metrics => exact .inform rfl rfl (.metrics _) rfl
    | status => exact .inform rfl rfl (.status _ wallet) rfl
    | lookup => exact .inform rfl rfl (.lookup _ wallet) rfl
    | admin =>
      exact .inform rfl rfl (.fields (by simp [Value.field?]) (by simp [Value.field?])) rfl
    | nextContract =>
      exact .inform rfl rfl (.fields (by simp [Value.field?]) (by simp [Value.field?])) rfl
    | batch => exact s.handles_handlePost clock heard r .batch
    | setStatus => exact s.handles_handlePost clock heard r .setStatus
    | transferAdmin => exact s.handles_handlePost clock heard r .transferAdmin
    | setNextContract => exact s.handles_handlePost clock heard r .setNextContract
  | wrongMethod route => exact .inform rfl rfl (.wrongMethod _) rfl
  | page page allowed =>
    cases allowed with
    | true => exact .inform rfl rfl (.page page) rfl
    | false => exact .inform rfl rfl (.wrongMethod _) rfl
  | redirect path => exact .inform rfl rfl (.redirect _) rfl
  | unknown => exact .inform rfl rfl .unknown rfl

/-- A change on behalf of a caller, or a plain reply. -/
def Answers (s : Service) (clock : Clock) (r : Request) (command? : Option Command)
    (o : Outcome) (heard : Clocks := .same clock) : Prop :=
  (∃ command caller, command? = some command ∧ r.caller? = some caller ∧
      o = s.change clock caller command heard) ∨
    ((command? = none ∨ r.caller? = none) ∧ ∃ reply : Reply, reply.IsPlain ∧ o = s.answer reply)

theorem answers_route (s : Service) (clock : Clock) (r : Request) (heard : Clocks := .same clock) :
    s.Answers clock r r.command? (s.route clock r heard).2 heard := by
  cases s.handles_route clock heard r with
  | change hcommand _ hcaller ho => exact .inl ⟨_, _, hcommand, hcaller, ho⟩
  | complain hnone hreply ho => exact .inr ⟨hnone, _, hreply.isPlain, ho⟩
  | inform hnone _ hreply ho => exact .inr ⟨.inl hnone, _, hreply.isPlain, ho⟩

theorem isPersisted_changeReply {status : Nat} {success persisted : Bool} :
    (changeReply status success persisted).IsPersisted ↔ persisted = true := by
  simp [changeReply, Reply.IsPersisted, Reply.field?, Reply.fields, Reply.document, Value.field?]

theorem isAccepted_changeReply {status : Nat} {success persisted : Bool} :
    (changeReply status success persisted).IsAccepted ↔ success = true := by
  simp [changeReply, Reply.IsAccepted, Reply.field?, Reply.fields, Reply.document, Value.field?]

theorem route_of_command {r : Request} {command : Command} {caller : String}
    (hcommand : r.command? = some command) (hcaller : r.caller? = some caller) (s : Service)
    (clock : Clock) (heard : Clocks := .same clock) :
    (s.route clock r heard).2 = s.change clock caller command heard := by
  rcases s.answers_route clock r heard with
    ⟨command', caller', hcommand', hcaller', hroute⟩ | ⟨hnone, -⟩
  · cases hcommand.symm.trans hcommand'
    cases hcaller.symm.trans hcaller'
    exact hroute
  · rcases hnone with hnone | hnone
    · cases hcommand.symm.trans hnone
    · cases hcaller.symm.trans hnone

/-- What a change makes of the host is what the attempt makes of it that the authority lets through.
The store changes only if the change was accepted. -/
theorem change_attempt (s : Service) (clock : Clock) (caller : String) (command : Command)
    (heard : Clocks := .same clock) :
    let attempt := s.host.performAs s.authority clock (.text caller) command heard
    let o := s.change clock caller command heard
    o.service.authority = s.authority ∧ o.service.host = attempt.state ∧
      match attempt.answer with
      | .ok true =>
        let saving := save s.store? o.service.host.registry command.operation
        o.service.store? = saving.store? ∧ o.reply = changeReply 200 true saving.persisted
      | .ok false => o.service.store? = s.store? ∧ o.reply = changeReply 400 false false
      | .error f => o.service.store? = s.store? ∧ o.reply = failureReply f := by
  simp only [change]
  cases (s.host.performAs s.authority clock (.text caller) command heard).answer with
  | ok accepted =>
    cases accepted with
    | true => exact ⟨rfl, rfl, rfl, rfl⟩
    | false => exact ⟨rfl, rfl, rfl, rfl⟩
  | error f =>
    cases f with
    | unauthorized caller operation => exact ⟨rfl, rfl, rfl, rfl⟩
    | _ => exact ⟨rfl, rfl, rfl, rfl⟩

/-- Where only the administrator may change the registry, the attempt is the guarded call. -/
theorem change_spec {s : Service} (hs : s.authority = .admin) (clock : Clock) (caller : String)
    (command : Command) :
    let c : GuardedCall := ⟨clock, .text caller, command⟩
    let o := s.change clock caller command
    o.service.authority = .admin ∧ o.service.host = (s.host.callAs c).1 ∧
      match (s.host.callAs c).2 with
      | .ok true =>
        let saving := save s.store? o.service.host.registry command.operation
        o.service.store? = saving.store? ∧ o.reply = changeReply 200 true saving.persisted
      | .ok false => o.service.store? = s.store? ∧ o.reply = changeReply 400 false false
      | .error f => o.service.store? = s.store? ∧ o.reply = failureReply f := by
  have hattempt := s.change_attempt clock caller command
  rw [hs] at hattempt
  exact hattempt

theorem change_of_write {s : Service} (hs : s.authority = .admin)
    (hadmin : IsAddress s.host.registry.admin) {clock : Clock} {command : Command} {w : Write}
    (hw : (Call.mk clock command).write? = some w) :
    let o := s.change clock s.host.registry.admin command
    o.service.host.registry = s.host.registry.put w ∧ o.reply.IsAccepted := by
  intro o
  obtain ⟨-, hhost, hanswer⟩ := change_spec hs clock s.host.registry.admin command
  have hcall : s.host.callAs ⟨clock, .text s.host.registry.admin, command⟩ =
      s.host.call ⟨clock, command⟩ := Host.callAs_admin hadmin rfl
  rw [hcall, Host.call_of_write hw] at hhost hanswer
  refine ⟨congrArg Host.registry hhost, ?_⟩
  rw [hanswer.2]
  exact isAccepted_changeReply.2 rfl

/-- Apart from the meters, serving a request is handling it on its route. -/
theorem serve_spec (s : Service) (clock : Clock) (duration : Binary64) (r : Request)
    (heard : Clocks := .same clock) :
    let o := s.serve clock duration r heard
    let routed := (s.route clock r heard).2
    o.service.host = routed.service.host ∧ o.service.authority = routed.service.authority ∧
      o.service.store? = routed.service.store? ∧ o.reply = routed.reply := by
  unfold serve
  cases s.route clock r heard with
  | mk endpoint outcome => cases hraised : outcome.reply.raised? <;> simp [hraised]

/-- A request that is not answered with success changes neither the host nor the store. -/
theorem serve_of_failed {s : Service} {clock : Clock} {heard : Clocks} {duration : Binary64}
    {r : Request} (hfailed : (s.serve clock duration r heard).reply.status ≠ 200) :
    let o := s.serve clock duration r heard
    o.service.host = s.host ∧ o.service.store? = s.store? := by
  intro o
  obtain ⟨hhost, -, hstore, hreply⟩ := s.serve_spec clock duration r heard
  rw [hreply] at hfailed
  rcases s.answers_route clock r heard with
    ⟨command, caller, -, -, hroute⟩ | ⟨-, reply, -, hroute⟩
  · rw [hroute] at hhost hstore hfailed
    obtain ⟨-, hchanged, hanswer⟩ := s.change_attempt clock caller command heard
    have hnot : (s.host.performAs s.authority clock (.text caller) command heard).answer ≠
        .ok true := by
      intro haccepted
      rw [haccepted] at hanswer
      rw [hanswer.2] at hfailed
      exact hfailed rfl
    refine ⟨(hhost.trans hchanged).trans (Host.performAs_unchanged hnot), hstore.trans ?_⟩
    cases hdone : (s.host.performAs s.authority clock (.text caller) command heard).answer with
    | error f =>
      rw [hdone] at hanswer
      exact hanswer.1
    | ok accepted =>
      cases accepted with
      | true => exact absurd hdone hnot
      | false =>
        rw [hdone] at hanswer
        exact hanswer.1
  · rw [hroute] at hhost hstore
    exact ⟨hhost, hstore⟩

end Service
end WalletTrust.Http
