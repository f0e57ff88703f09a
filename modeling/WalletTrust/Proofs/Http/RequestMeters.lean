import WalletTrust.Proofs.Http.Refinement
import WalletTrust.Proofs.Meters.Tally

/-!
# Requests that are counted

A request is counted once, under its method, the name of its path and the status of its reply, but
only if its handling came to an end. One whose handling fails is answered with the status 500 and is
missing from the meters.
-/

namespace WalletTrust.Http

open Meters (Labels)

def Request.endpoint (r : Request) : String :=
  match dispatch r.method (pathOf r.target) with
  | .handle route _ => route.template
  | .wrongMethod route => route.template
  | .page _ _ => Service.unmatched
  | .redirect _ => Service.unmatched
  | .unknown => Service.unmatched

/-- The values of the labels under which a request with a reply belongs. -/
def Request.labels (r : Request) (reply : Reply) : Labels :=
  [r.method, Text.toPoints r.endpoint, Text.toPoints (toString reply.status)]

/-- The labels under which a request is counted, unless its handling failed. -/
def Request.countedAs? (r : Request) (reply : Reply) : Option Labels :=
  if reply.status = 500 then none else some (r.labels reply)

/-- The status 500 tells of a failure, and nothing else does. -/
def Reply.IsCandid (r : Reply) : Prop := r.raised?.isSome = true ↔ r.status = 500

namespace Reply

theorem isCandid_failed (f : Failure) : (failed f).IsCandid := by simp [IsCandid, failed]

theorem isCandid_document {status : Nat} (h : status ≠ 500) (v : Value) :
    (document status v).IsCandid := by simp [IsCandid, document, h]

theorem isCandid_documentReply {status : Nat} (h : status ≠ 500) (v : Value) :
    (Service.documentReply status v).IsCandid := by
  unfold Service.documentReply
  split
  · exact isCandid_document h _
  · exact isCandid_failed _

private theorem isCandid_failureReply (f : Failure) : (Service.failureReply f).IsCandid := by
  unfold Service.failureReply
  split
  · exact isCandid_documentReply (by decide) _
  · split
    · exact isCandid_documentReply (by decide) _
    · exact isCandid_failed f

private theorem IsComplaint.isCandid {r : Reply} (h : r.IsComplaint) : r.IsCandid := by
  cases h with
  | problems problems =>
    unfold Service.problemReply
    split
    · exact isCandid_documentReply (by decide) _
    · exact isCandid_failed _
  | unreadable => exact isCandid_document (by decide) _
  | anonymous => exact isCandid_document (by decide) _

theorem IsInformation.isCandid {r : Reply} (h : r.IsInformation) : r.IsCandid := by
  cases h with
  | fields => exact isCandid_document (by decide) _
  | status r wallet =>
    unfold Service.statusReply
    split
    · exact isCandid_document (by decide) _
    · exact isCandid_failed _
  | lookup r wallet =>
    unfold Service.lookupReply
    simp only
    split
    · exact isCandid_document (by decide) _
    · exact isCandid_document (by decide) _
    · split
      · exact isCandid_document (by decide) _
      · exact isCandid_failed _
  | batch r wallets =>
    unfold Service.batchReply
    split
    · split
      · exact isCandid_failed _
      · exact isCandid_document (by decide) _
    · exact isCandid_failed _
  | metrics m =>
    unfold Service.metricsReply
    split
    · simp [IsCandid]
    · exact isCandid_failed _
  | wrongMethod allowed => simp [IsCandid, Reply.wrongMethod, detail, Reply.fields, document]
  | page p => simp [IsCandid, Reply.page]
  | redirect location => simp [IsCandid]
  | unknown => exact isCandid_document (by decide) _

end Reply

namespace Service

variable (s : Service) (clock : Clock) (heard : Clocks)

private theorem isCandid_change (caller : String) (command : Command) :
    (s.change clock caller command heard).reply.IsCandid := by
  obtain ⟨-, -, hanswer⟩ := s.change_attempt clock caller command heard
  split at hanswer
  · rw [hanswer.2]
    exact Reply.isCandid_document (by decide) _
  · rw [hanswer.2]
    exact Reply.isCandid_document (by decide) _
  · rw [hanswer.2]
    exact Reply.isCandid_failureReply _

theorem isCandid_route (r : Request) : (s.route clock r heard).2.reply.IsCandid := by
  cases s.handles_route clock heard r with
  | change _ _ _ ho =>
    rw [ho]
    exact s.isCandid_change clock heard _ _
  | complain _ hreply ho =>
    rw [ho]
    exact hreply.isCandid
  | inform _ _ hreply ho =>
    rw [ho]
    exact hreply.isCandid

theorem endpoint_route (r : Request) : (s.route clock r heard).1 = r.endpoint := by
  unfold route Request.endpoint
  cases dispatch r.method (pathOf r.target) <;> rfl

/-- Changes have meters of their own. -/
theorem requests_change (caller : String) (command : Command) :
    (s.change clock caller command heard).service.meters.requests = s.meters.requests := by
  simp only [change]
  cases (s.host.performAs s.authority clock (.text caller) command heard).answer with
  | ok accepted =>
    cases accepted with
    | true =>
      simp only [accept]
      split <;> rfl
    | false => rfl
  | error f => cases f <;> rfl

private theorem requests_route (r : Request) :
    (s.route clock r heard).2.service.meters.requests = s.meters.requests := by
  cases s.handles_route clock heard r with
  | change _ _ _ ho => rw [ho, requests_change]
  | complain _ _ ho => rw [ho, answer]
  | inform _ _ _ ho => rw [ho, answer]

theorem requests_serve (duration : Binary64) (r : Request) :
    let o := s.serve clock duration r heard
    o.service.meters.requests = s.meters.requests.tally (r.countedAs? o.reply) := by
  have hcandid := s.isCandid_route clock heard r
  have hrequests := s.requests_route clock heard r
  have hendpoint := s.endpoint_route clock heard r
  unfold Reply.IsCandid at hcandid
  unfold serve Request.countedAs?
  cases hraised : (s.route clock r heard).2.reply.raised? with
  | some f =>
    have hstatus : (s.route clock r heard).2.reply.status = 500 := by
      rw [← hcandid, hraised, Option.isSome_some]
    -- the failure passes the meters by
    simp only [hraised, hstatus, if_true]
    exact hrequests
  | none =>
    have hstatus : (s.route clock r heard).2.reply.status ≠ 500 := by
      rw [Ne, ← hcandid, hraised]
      exact Bool.false_ne_true
    simp only [hraised, hstatus, if_false]
    rw [Meters.observeRequest, hrequests, hendpoint]
    rfl

theorem requests_exchange (e : Exchange) :
    (s.exchange e).1.meters.requests =
      s.meters.requests.tally (e.request.countedAs? (s.exchange e).2) := by
  obtain ⟨store?, -, -, hreply, hmeters, -⟩ := s.exchange_spec e
  rw [hmeters, hreply]
  exact requests_serve { s with store? } e.clock (.same e.clock) e.duration e.request

theorem isCandid_exchange (e : Exchange) : (s.exchange e).2.IsCandid := by
  obtain ⟨store?, -, -, hreply, -⟩ := s.exchange_spec e
  obtain ⟨-, -, -, hserved⟩ := { s with store? }.serve_spec e.clock e.duration e.request
  rw [hreply, hserved]
  exact isCandid_route { s with store? } e.clock (.same e.clock) e.request

end Service

open Service (exchange)

/-- Whatever the authority and the clocks do, the requests that are counted are those whose handling
did not fail, each of them once and under its own labels. -/
theorem requests_are_counted_unless_handling_fails (host : Host) (authority : Authority)
    (store? : Option Store) (exchanges : List Exchange) :
    let app := Service.putUp ⟨host, authority, store?, {}⟩
    let answered := Run.transcript exchange app exchanges
    let requests := (Run.after exchange app exchanges).meters.requests
    requests.total = answered.countP (fun p => p.2.status ≠ 500) ∧
      (∀ labels, requests.count labels = answered.countP fun p =>
        p.2.status ≠ 500 ∧ p.1.request.labels p.2 = labels) ∧
      ∀ earlier e later, exchanges = earlier ++ e :: later →
        let before := Run.after exchange app earlier
        let next := before.exchange e
        (next.2.raised?.isSome = true ↔ next.2.status = 500) ∧
          next.1.meters.requests = if next.2.status = 500 then before.meters.requests
            else before.meters.requests.increment (e.request.labels next.2) := by
  intro app answered requests
  have htallied : Meters.Counter.TalliedBy exchange (fun _ => True) (·.meters.requests)
      (fun e reply => e.request.countedAs? reply) :=
    ⟨fun _ _ _ => trivial, fun s e _ => s.requests_exchange e⟩
  have hempty : app.meters.requests = [] := rfl
  refine ⟨?_, ?_, ?_⟩
  · have htotal := htallied.total_after (s := app) trivial exchanges
    rw [hempty, Meters.Counter.total_nil, Nat.zero_add] at htotal
    rw [htotal]
    refine List.countP_congr fun p _ => ?_
    by_cases h : p.2.status = 500 <;> simp [Request.countedAs?, h]
  · intro labels
    have hcount := htallied.count_after (s := app) trivial exchanges labels
    rw [hempty, Meters.Counter.count_nil, Nat.zero_add] at hcount
    rw [hcount]
    refine List.countP_congr fun p _ => ?_
    by_cases h : p.2.status = 500 <;> simp [Request.countedAs?, h]
  · intro earlier e later _
    refine ⟨Service.isCandid_exchange _ e, ?_⟩
    rw [Service.requests_exchange, Request.countedAs?]
    split <;> rfl

/-- The administrator sets a status while the clock fails. -/
def stalled : Exchange :=
  { clock := none
    duration := .zero false
    request :=
      { method := Text.toPoints "POST"
        target := "/api/v1/status"
        headers := [(callerHeader, Address.repeating 'A')]
        contentType? := some "application/json"
        body := (Text.utf8 ("\x7b\"wallet_address\":\"" ++ Address.repeating 'B' ++
          "\",\"status\":\"ACTIVE\",\"trust_score\":75\x7d")).map UInt8.ofNat } }

theorem stalled_request_is_not_counted :
    let app := Service.putUp ⟨⟨{ admin := Address.repeating 'A' }, .silent⟩, .admin, none, {}⟩
    (exchange app stalled).2.status = 500 ∧
      (Run.after exchange app [stalled]).meters.requests.total ≠ [stalled].length := by
  intro app
  have hstatus : (exchange app stalled).2.status = 500 := by decide +kernel
  have hnone : (Run.after exchange app [stalled]).meters.requests = [] := by
    rw [Run.after_cons, Run.after_nil, Service.requests_exchange, Request.countedAs?,
      if_pos hstatus]
    rfl
  refine ⟨hstatus, ?_⟩
  rw [hnone]
  exact Nat.zero_ne_one

end WalletTrust.Http
