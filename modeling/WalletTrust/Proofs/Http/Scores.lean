import WalletTrust.Proofs.Authority.Refusal
import WalletTrust.Proofs.Http.Reads
import WalletTrust.Proofs.Http.Refinement

/-!
# Scores in requests

A registry takes integers alone for scores, but a request may have anything in the place of one.
What is no integer is converted to one before the registry sees it, so that truth values, whole
doubles and written integers are stored as scores. Everything else leaves all as it is.
-/

namespace WalletTrust.Http

/-- The integer that a value is taken for: an integer for itself, and others that are none. -/
inductive TakenFor : Value → Int → Prop
  | int (n : Int) : TakenFor (.int n) n
  | bool (b : Bool) : TakenFor (.bool b) (if b then 1 else 0)
  | double {x : Binary64} {n : Int} (h : x.toInt? = some n) (hsize : n.natAbs < wholeEnd) :
    TakenFor (.float x) n
  | text {s : String} {n : Int} (h : integerOfText (Text.toPoints s) = .ok n) :
    TakenFor (.text s) n
  | broken {points : Text.Points} {n : Int} (h : integerOfText points = .ok n) :
    TakenFor (.broken points) n
  | bytes {data : List UInt8} {points : Text.Points} {n : Int}
    (hdata : Text.utf8From false 0 (data.map UInt8.toNat) = some points)
    (h : integerOfText points = .ok n) : TakenFor (.bytes data) n

/-- No status is named like an integer. -/
theorem asInteger_status (s : Status) (n : Int) : asInteger (.status s) ≠ .ok n := by
  have hnone : (asInteger (.status s)).toOption = none := by cases s <;> decide +kernel
  intro h
  rw [h] at hnone
  cases hnone

private theorem asInteger_float {x : Binary64} {n : Int} :
    asInteger (.float x) = .ok n ↔ x.toInt? = some n ∧ n.natAbs < wholeEnd := by
  cases x with
  | finite negative m e =>
    by_cases hwhole : Binary64.isWhole m e = true
    · simp only [asInteger, Binary64.toInt?, hwhole, Bool.not_true, Bool.false_eq_true, if_false,
        if_true, Option.some.injEq]
      constructor
      · intro h
        split at h
        · cases h
          exact ⟨rfl, by assumption⟩
        · cases h
      · rintro ⟨rfl, hsize⟩
        exact if_pos hsize
    · simp [asInteger, Binary64.toInt?, hwhole]
  | _ => simp [asInteger, Binary64.toInt?]

theorem asInteger_bytes {data : List UInt8} {n : Int} :
    asInteger (.bytes data) = .ok n ↔ ∃ points,
      Text.utf8From false 0 (data.map UInt8.toNat) = some points ∧
        integerOfText points = .ok n := by
  cases hdata : Text.utf8From false 0 (data.map UInt8.toNat) <;> simp [asInteger, hdata]

theorem asInteger_eq_ok_iff {v : Value} {n : Int} : asInteger v = .ok n ↔ TakenFor v n := by
  constructor
  · intro h
    cases v with
    | int m =>
      cases h
      exact .int n
    | bool b =>
      cases h
      exact .bool b
    | float x =>
      obtain ⟨hwhole, hsize⟩ := asInteger_float.1 h
      exact .double hwhole hsize
    | text s => exact .text h
    | broken points => exact .broken h
    | bytes data =>
      obtain ⟨points, hdata, hread⟩ := asInteger_bytes.1 h
      exact .bytes hdata hread
    | status s => exact absurd h (asInteger_status s n)
    | _ => cases h
  · intro h
    cases h with
    | int => rfl
    | bool b => rfl
    | double hwhole hsize => exact asInteger_float.2 ⟨hwhole, hsize⟩
    | text hread => exact hread
    | broken hread => exact hread
    | bytes hdata hread => exact asInteger_bytes.2 ⟨_, hdata, hread⟩

/-- A request of a caller to give a wallet a status and what stands in the place of a score. -/
structure Request.SetsStatus (r : Request) (caller wallet : String) (status : Status)
    (score : Value) : Prop where
  isFor : r.IsFor "POST" "/api/v1/status"
  caller : r.caller? = some caller
  body : ∃ entries, bodyContent r = .present (.map entries) ∧
    Value.field? "wallet_address" entries = some (.text wallet) ∧
    Value.field? "status" entries = some (.text status.name) ∧
    Value.field? "trust_score" entries = some score

/-- The command that such a request comes to, or what is wrong with its score. -/
def scoreCommand (wallet : String) (status : Status) (score : Value) : Checked Command :=
  match asInteger score with
  | .ok n => .ok (.setStatus (.text wallet) (.status status) (.int n))
  | .error kind => .error [{ kind, place := [.text "trust_score"], input := score }]

theorem statusCommand_eq {entries : List (Value × Value)} {wallet : String} {status : Status}
    {score : Value} (hwallet : Value.field? "wallet_address" entries = some (.text wallet))
    (hstatus : Value.field? "status" entries = some (.text status.name))
    (hscore : Value.field? "trust_score" entries = some score) :
    statusCommand (.map entries) = scoreCommand wallet status score := by
  simp only [statusCommand, entriesOf, required, hwallet, hstatus, hscore, asText, asStatus,
    Status.ofName?_name, Except.mapError, Option.elim_some, scoreCommand, bind, Except.bind]
  cases asInteger score <;> rfl

namespace Request.SetsStatus

variable {r : Request} {caller wallet : String} {status : Status} {score : Value}

theorem dispatch_eq (h : r.SetsStatus caller wallet status score) :
    dispatch r.method (pathOf r.target) = .handle .setStatus "" := by
  rw [h.isFor.method, h.isFor.path]
  rfl

theorem command?_eq (h : r.SetsStatus caller wallet status score) :
    r.command? = (scoreCommand wallet status score).toOption := by
  obtain ⟨entries, hbody, hwallet, hstatus, hscore⟩ := h.body
  simp only [Request.command?, h.dispatch_eq, Request.commandOn?, Service.commandOf?, hbody,
    statusCommand_eq hwallet hstatus hscore]

private theorem reply_eq (h : r.SetsStatus caller wallet status score) {problems : List Problem}
    (hproblems : scoreCommand wallet status score = .error problems) (s : Service) (clock : Clock)
    (duration : Binary64) :
    (s.serve clock duration r).reply = Service.problemReply problems := by
  obtain ⟨entries, hbody, hwallet, hstatus, hscore⟩ := h.body
  rw [(s.serve_spec clock duration r).2.2.2, Service.route, h.dispatch_eq]
  simp only [Service.handle, Service.handlePost, hbody, Service.handleBody, Service.commandOf?,
    h.caller, Service.checkBody, statusCommand_eq hwallet hstatus hscore, hproblems]
  rfl

end Request.SetsStatus

/-- What comes of a request to set a status at a time, by what stands in the place of a score. -/
structure Exchange.Scores (e : Exchange) (s : Service) (now : Value) (wallet : String)
    (status : Status) (score : Value) : Prop where
  taken : ∀ n : Int, TakenFor score n → 0 ≤ n ∧ n ≤ 100 →
    (s.exchange e).2.status = 200 ∧ (s.exchange e).2.IsAccepted ∧
      (s.exchange e).1.host.registry = s.host.registry.put (.record wallet status n now)
  outside : ∀ n : Int, TakenFor score n → ¬ (0 ≤ n ∧ n ≤ 100) →
    (s.exchange e).1.host = s.host ∧ (s.exchange e).1.store? = s.store? ∧
      (s.exchange e).2 = Service.changeReply 400 false false
  unread : (∀ n : Int, ¬ TakenFor score n) →
    (s.exchange e).1.host = s.host ∧ (s.exchange e).1.store? = s.store? ∧
      ((s.exchange e).2.status = 422 ∨ (s.exchange e).2.status = 500) ∧
      (IsSendable score → (s.exchange e).2.status = 422)

namespace Service

variable {s : Service} {e : Exchange}

/-- An exchange that no store makes a success leaves the host and the store alone. -/
theorem exchange_of_failed
    (h : ∀ store?, ({ s with store? }.serve e.clock e.duration e.request).reply.status ≠ 200) :
    (s.exchange e).1.host = s.host ∧ (s.exchange e).1.store? = s.store? := by
  obtain ⟨store?, hhost, -⟩ := s.exchange_spec e
  refine ⟨hhost.trans (serve_of_failed (h store?)).1, ?_⟩
  exact exchange_store fun store? => (serve_of_failed (h store?)).2

theorem exchange_reply {reply : Reply}
    (h : ∀ store?, ({ s with store? }.serve e.clock e.duration e.request).reply = reply) :
    (s.exchange e).2 = reply := by
  obtain ⟨store?, -, -, hreply, -⟩ := s.exchange_spec e
  exact hreply.trans (h store?)

/-- What the administrator asks for is done, if it comes to a write, and rejected otherwise. -/
theorem exchange_of_admin (hs : s.authority = .admin) (hadmin : IsAddress s.host.registry.admin)
    {now : Value} (hclock : e.clock = some now) {command : Command}
    (hcommand : e.request.command? = some command)
    (hcaller : e.request.caller? = some s.host.registry.admin) :
    match (Call.mk e.clock command).write? with
    | some w => (s.exchange e).2.status = 200 ∧ (s.exchange e).2.IsAccepted ∧
        (s.exchange e).1.host.registry = s.host.registry.put w
    | none => (s.exchange e).1.host = s.host ∧ (s.exchange e).1.store? = s.store? ∧
        (s.exchange e).2 = changeReply 400 false false := by
  have hticks : e.clock ≠ none := by
    rw [hclock]
    exact Option.some_ne_none now
  cases hw : (Call.mk e.clock command).write? with
  | some w =>
    have hdone := Host.call_of_write hw s.host
    have hrefines := refines_exchange hs hadmin hticks
    have hcall : e.call? = some ⟨e.clock, .text s.host.registry.admin, command⟩ := by
      rw [Exchange.call?, hcommand, hcaller]
    have hreply := ((hrefines.reports command _ hcommand hcaller).accepted rfl).2
      (congrArg Prod.snd hdone)
    refine ⟨hreply.1, hreply.2, ?_⟩
    rw [hrefines.host, hcall, Option.elim_some, Host.callAs_admin hadmin rfl]
    exact congrArg (fun done => done.1.registry) hdone
  | none =>
    have hanswer : (s.host.call ⟨e.clock, command⟩).2 ≠ .ok true := by
      have htimely : (Call.mk (some now) command).answer = _ := Call.answer_timely (now, command)
      rw [hclock] at hw ⊢
      rw [Host.call_answer, htimely, Call.timely, hw]
      rintro ⟨⟩
    have hreply : ∀ store?, ({ s with store? }.serve e.clock e.duration e.request).reply =
        changeReply 400 false false := by
      intro store?
      obtain ⟨-, -, hserved⟩ :=
        serve_of_call (s := { s with store? }) hs hcommand hcaller e.clock e.duration
      rw [hserved]
      have hreports := reports_change (s := { s with store? }) hs hadmin hticks
        s.host.registry.admin command
      exact hreports.rejected rfl hanswer
    have hkept := exchange_of_failed (s := s) (e := e) fun store? => by
      rw [hreply store?]
      decide
    exact ⟨hkept.1, hkept.2, exchange_reply hreply⟩

end Service

/-- Whatever stands in the place of a score, a request of the administrator stores an integer that
is a score, or leaves the registry, its observers and the store alone. A score is stored as it is,
and so is what any other value is taken for. -/
theorem scores_in_requests_are_converted {s : Service} (hs : s.authority = .admin)
    (hr : s.host.registry.Obtainable) {e : Exchange} {now : Value} (hclock : e.clock = some now)
    {wallet : String} (hwallet : IsAddress wallet) {status : Status} {score : Value}
    (h : e.request.SetsStatus s.host.registry.admin wallet status score) :
    e.Scores s now wallet status score := by
  have hadmin := hr.reachable.wellFormed.admin
  have hread : ∀ n : Int, TakenFor score n → e.request.command? =
      some (.setStatus (.text wallet) (.status status) (.int n)) := by
    intro n hn
    rw [h.command?_eq, scoreCommand, asInteger_eq_ok_iff.2 hn]
    rfl
  refine ⟨?_, ?_, ?_⟩
  · intro n hn hrange
    have hdone := Service.exchange_of_admin hs hadmin hclock (hread n hn) h.caller
    have hw : (Call.mk e.clock (.setStatus (.text wallet) (.status status) (.int n))).write? =
        some (.record wallet status n now) := by
      rw [hclock]
      exact if_pos ⟨hwallet, hrange⟩
    rwa [hw] at hdone
  · intro n hn hrange
    have hdone := Service.exchange_of_admin hs hadmin hclock (hread n hn) h.caller
    have hw : (Call.mk e.clock (.setStatus (.text wallet) (.status status) (.int n))).write? =
        none := by
      rw [hclock]
      exact if_neg fun hboth => hrange hboth.2
    rwa [hw] at hdone
  · intro hnone
    cases hkind : asInteger score with
    | ok n => exact absurd (asInteger_eq_ok_iff.1 hkind) (hnone n)
    | error kind =>
      have hproblems : scoreCommand wallet status score =
          .error [{ kind, place := [.text "trust_score"], input := score }] := by
        rw [scoreCommand, hkind]
      have hreply := fun store? => h.reply_eq hproblems { s with store? } e.clock e.duration
      have hstatus := Reply.status_problemReply
        [{ kind, place := [.text "trust_score"], input := score }]
      have hkept := Service.exchange_of_failed (s := s) (e := e) fun store? => by
        rw [hreply store?]
        rcases hstatus with hstatus | hstatus <;> rw [hstatus] <;> decide
      rw [Service.exchange_reply hreply]
      exact ⟨hkept.1, hkept.2, hstatus, fun hsendable =>
        hsendable.status_problemReply kind "trust_score"⟩

/-- The administrator asks for a truth value to be set as a score. -/
def flagging : Exchange :=
  { clock := some (.int 7)
    duration := .zero false
    request :=
      { method := Text.toPoints "POST"
        target := "/api/v1/status"
        headers := [(callerHeader, Address.repeating 'A')]
        contentType? := some "application/json"
        body := (Text.utf8 ("\x7b\"wallet_address\":\"" ++ Address.repeating 'B' ++
          "\",\"status\":\"ACTIVE\",\"trust_score\":true\x7d")).map UInt8.ofNat } }

/-- Whether a body has three fields, two texts and a truth value, with these names and texts. -/
def isFlagged (texts : List String) : BodyContent → Bool
  | .present (.map [(.text a, .text wallet), (.text b, .text status), (.text c, .bool true)]) =>
    [a, wallet, b, status, c] == texts
  | _ => false

theorem setsStatus_flagging : flagging.request.SetsStatus (Address.repeating 'A')
    (Address.repeating 'B') .active (.bool true) := by
  have hread : isFlagged ["wallet_address", Address.repeating 'B', "status", "ACTIVE",
      "trust_score"] (bodyContent flagging.request) = true := by decide +kernel
  refine ⟨⟨rfl, by decide +kernel⟩, ?_, ?_⟩
  · rw [Request.caller?_of_header rfl]
    decide +kernel
  · unfold isFlagged at hread
    split at hread
    · rename_i a wallet b status c hbody
      obtain ⟨rfl, rfl, rfl, rfl, rfl⟩ : a = "wallet_address" ∧ wallet = Address.repeating 'B' ∧
          b = "status" ∧ status = "ACTIVE" ∧ c = "trust_score" := by simpa using hread
      exact ⟨_, hbody, rfl, rfl, rfl⟩
    · cases hread

theorem scores_in_requests_are_converted_flagging :
    let app := Service.putUp ⟨Host.putUp, .admin, none, {}⟩
    (Service.exchange app flagging).2.IsAccepted ∧
      (Service.exchange app flagging).1.host.registry =
        Host.putUp.registry.put (.record (Address.repeating 'B') .active 1 (.int 7)) := by
  intro app
  have hwallet : IsAddress (Address.repeating 'B') := Address.isAddress_repeating (by decide)
  have hscores := scores_in_requests_are_converted (s := app) (e := flagging) rfl
    (.create Host.create_putUp) rfl hwallet setsStatus_flagging
  exact (hscores.taken 1 (.bool true) (by decide)).2

theorem truth_value_is_stored_as_score :
    let app := Service.putUp ⟨Host.putUp, .admin, none, {}⟩
    Host.putUp.registry.Reachable ∧
      flagging.request.SetsStatus (Address.repeating 'A') (Address.repeating 'B') .active
        (.bool true) ∧
      Score.isValid (.bool true) = false ∧ (Service.exchange app flagging).2.status = 200 ∧
      Registry.wallets (Service.exchange app flagging).1.host.registry.records =
        [Address.repeating 'B'] := by
  intro app
  exact ⟨.create Host.create_putUp, setsStatus_flagging, rfl, by decide +kernel,
    by decide +kernel⟩

end WalletTrust.Http
