import WalletTrust.Authority
import WalletTrust.Http.Body
import WalletTrust.Http.Echo
import WalletTrust.Http.Route
import WalletTrust.Meters.Exposition
import WalletTrust.Store.Basic

/-!
# The service

Reads are open to everybody; a change needs a caller whom the authority permits. A change that was
accepted is saved if there is a store, and stands even if it could not be saved. Requests are
counted once they are answered.
-/

namespace WalletTrust.Http

structure Service where
  host : Host
  authority : Authority := .admin
  store? : Option Store := none
  meters : Meters := {}

structure Outcome where
  service : Service
  reply : Reply
  log : List Log.Entry := []

namespace Service

def walletCount (h : Host) : Binary64 := .ofInt h.registry.size

/-- A service as it is put up: its meters show the number of wallets. -/
def putUp (s : Service) : Service := { s with meters := s.meters.setWallets (walletCount s.host) }

def answer (s : Service) (reply : Reply) (log : List Log.Entry := []) : Outcome := ⟨s, reply, log⟩

def documentReply (status : Nat) (v : Value) : Reply :=
  match writable v with
  | .ok v => .document status v
  | .error f => .failed f

/-- The answer to a failure: a refusal, another failure of the domain, or one that is not told. -/
def failureReply (f : Failure) : Reply :=
  match f with
  | .unauthorized _ _ => documentReply 403 (.map f.body)
  | _ => if f.code?.isSome then documentReply 400 (.map f.body) else .failed f

def answerScore (v : Value) : Except Failure Value :=
  match asInteger v with
  | .ok n => if Score.inRange n then .ok (.int n) else .error .badAnswer
  | .error _ => .error .badAnswer

def answerTime (v : Value) : Except Failure Value :=
  match asInteger v with
  | .ok n => .ok (.int n)
  | .error _ => .error .badAnswer

/-- A status as an answer shows it: a status, or the exact name of one. -/
def answerStatus (v : Value) : Except Failure Value :=
  let named := fun (s : String) =>
    (Status.ofName? s).elim (.error .badAnswer) fun status => .ok (Value.text status.name)
  match v with
  | .status s => .ok (.text s.name)
  | .text s => named s
  | .bytes data => named (Text.utf8Replaced (data.map UInt8.toNat))
  | _ => .error .badAnswer

def statusFields (wallet : Value) (r : Record) : Except Failure (List (Value × Value)) := do
  let status ← answerStatus r.status
  let score ← answerScore r.trustScore
  let time ← answerTime r.updatedAt
  .ok [(.text "wallet_address", wallet), (.text "status", status),
    (.text "trust_score", score), (.text "updated_at", time)]

def statusReply (r : Registry) (wallet : String) : Reply :=
  match statusFields (.text wallet) (r.recordOf (.text wallet)) with
  | .ok fields => .fields 200 fields
  | .error f => .failed f

def lookupReply (r : Registry) (wallet : String) : Reply :=
  let found := r.lookup (.text wallet)
  match found.outcome with
  | .invalidAddress => .detail 400 "Invalid wallet address"
  | .notFound => .detail 404 "Wallet not registered"
  | .ok => match statusFields (.text wallet) found.record with
    | .ok fields => .fields 200 (fields ++ [(.text "outcome", .text found.outcome.name)])
    | .error f => .failed f

def batchEntries (records : List (Value × Record)) : List Value → Except Failure (List Value)
  | [] => .ok []
  | wallet :: rest => do
    let record := ((records.find? fun entry => entry.1.same wallet).map (·.2)).getD {}
    let fields ← statusFields wallet record
    let rest ← batchEntries records rest
    .ok (.map fields :: rest)

def batchReply (r : Registry) (wallets : List Value) : Reply :=
  match r.recordsOf wallets >>= fun records => batchEntries records wallets with
  | .ok entries =>
    if anyIn isBrokenText wallets then .failed .badAnswerText
    else .fields 200 [(.text "statuses", .list entries)]
  | .error f => .failed f

def shownProblems : List Problem → Except Failure (List Value)
  | [] => .ok []
  | p :: rest => do
    let input ← shown p.input
    let rest ← shownProblems rest
    .ok (.map { p with input }.fields :: rest)

def problemReply (problems : List Problem) : Reply :=
  match shownProblems problems with
  | .ok shown => documentReply 422 (.map [(.text "detail", .list shown)])
  | .error f => .failed f

def changeReply (status : Nat) (success persisted : Bool) : Reply :=
  .fields status [(.text "success", .bool success), (.text "persisted", .bool persisted)]

structure Saving where
  store? : Option Store
  persisted : Bool := false
  failed : Bool := false
  log : List Log.Entry := []

def save (store? : Option Store) (r : Registry) (operation : String) : Saving :=
  match store?.map Store.touched with
  | none => { store? := none }
  | some store =>
    let saving := store.saveForRequest r
    match saving.answer with
    | .ok () => { store? := some saving.state, persisted := true, log := saving.log }
    | .error _ =>
      { store? := some saving.state, failed := true
        log := saving.log ++ [{ source := .service, level := .error, event := "registry_save_failed"
                                fields := [("operation", .text operation)] }] }

def countChange (m : Meters) (operation outcome : String) : Meters :=
  m.recordMutation (Text.toPoints operation) (Text.toPoints outcome)

def accept (s : Service) (operation : String) (log : List Log.Entry) : Outcome :=
  let saving := save s.store? s.host.registry operation
  let meters :=
    if saving.failed then s.meters.recordSaveFailure (Text.toPoints operation) else s.meters
  { service :=
      { s with
        store? := saving.store?
        meters := countChange (meters.setWallets (walletCount s.host)) operation "success" }
    reply := changeReply 200 true saving.persisted
    log := log ++ saving.log }

def reject (s : Service) (operation : String) (log : List Log.Entry) : Outcome :=
  { service :=
      { s with
        meters := countChange (s.meters.setWallets (walletCount s.host)) operation "rejected" }
    reply := changeReply 400 false false
    log := log ++ [{ source := .service, level := .info, event := "mutation_rejected"
                     fields := [("operation", .text operation)] }] }

/-- Carries out a command on behalf of a caller. The host is what the attempt has left of it, even
if that failed. -/
def change (s : Service) (clock : Clock) (caller : String) (c : Command)
    (heard : Clocks := .same clock) : Outcome :=
  let attempt := s.host.performAs s.authority clock (.text caller) c heard
  let s := { s with host := attempt.state }
  match attempt.answer with
  | .ok true => s.accept c.operation attempt.log
  | .ok false => s.reject c.operation attempt.log
  | .error f => match f with
    | .unauthorized _ _ =>
      { service := { s with meters := countChange s.meters c.operation "unauthorized" }
        reply := failureReply f, log := attempt.log }
    | _ => s.answer (failureReply f) attempt.log

def commandOf? : Route → Option (Value → Checked Command)
  | .setStatus => some statusCommand
  | .transferAdmin => some (addressCommand "new_admin" .transferAdmin)
  | .setNextContract => some (addressCommand "contract_address" .setNextContract)
  | _ => none

def checkBody {α : Type} (body? : Option Value) (check : Value → Checked α) : Checked α :=
  match body? with
  | none => .error [{ kind := .missing, input := .null }]
  | some v => check v

/-- Handles a request with a body: first its form, then its caller, then its fields. -/
def handleBody (s : Service) (clock : Clock) (r : Request) (route : Route) (body? : Option Value)
    (heard : Clocks := .same clock) : Outcome :=
  match commandOf? route with
  | none => match checkBody body? wallets with
    | .ok wallets => s.answer (batchReply s.host.registry wallets)
    | .error problems => s.answer (problemReply problems)
  | some check => match r.caller? with
    | none => s.answer (.detail 401 (callerHeader ++ " header required"))
    | some caller => match checkBody body? check with
      | .ok command => s.change clock caller command heard
      | .error problems => s.answer (problemReply problems)

def handlePost (s : Service) (clock : Clock) (r : Request) (route : Route)
    (heard : Clocks := .same clock) : Outcome :=
  match bodyContent r with
  | .malformed position =>
    s.answer (problemReply [{ kind := .malformed, place := [.int position] }])
  | .unreadable => s.answer (.detail 400 "There was an error parsing the body")
  | .absent => s.handleBody clock r route none heard
  | .present v => s.handleBody clock r route (some v) heard

def metricsType : String := "text/plain; version=1.0.0; charset=utf-8"

def metricsReply (m : Meters) : Reply :=
  match m.page with
  | .ok text => { status := 200, contentType? := some metricsType, content := .text text }
  | .error f => .failed f

def handle (s : Service) (clock : Clock) (r : Request) (route : Route) (wallet : String)
    (heard : Clocks := .same clock) : Outcome :=
  let registry := s.host.registry
  match route with
  | .health => s.answer (.fields 200
      [(.text "status", .text "healthy"), (.text "wallets", .int registry.size)])
  | .metrics => s.answer (metricsReply s.meters)
  | .status => s.answer (statusReply registry wallet)
  | .lookup => s.answer (lookupReply registry wallet)
  | .admin => s.answer (.fields 200 [(.text "admin_address", .text registry.admin)])
  | .nextContract => s.answer (.fields 200 [(.text "next_contract_address", .text registry.next)])
  | .batch => s.handlePost clock r route heard
  | .setStatus => s.handlePost clock r route heard
  | .transferAdmin => s.handlePost clock r route heard
  | .setNextContract => s.handlePost clock r route heard

/-- How meters name a path that no route of the service handles. -/
def unmatched : String := "unmatched"

/-- Finds the route of a request and handles it there. The text is the name of the route. -/
def route (s : Service) (clock : Clock) (r : Request) (heard : Clocks := .same clock) :
    String × Outcome :=
  match dispatch r.method (pathOf r.target) with
  | .handle route wallet => (route.template, s.handle clock r route wallet heard)
  | .wrongMethod route => (route.template,
      s.answer (.wrongMethod route.method))
  | .page page allowed => (unmatched, s.answer
      (if allowed then .page page else .wrongMethod (String.intercalate ", " Page.methods)))
  | .redirect path => (unmatched, s.answer
      { status := 307
        location? := some (locationText "http://testserver" path (queryOf r.target)) })
  | .unknown => (unmatched, s.answer (.detail 404 "Not Found"))

/-- Serves a request that takes a time in seconds. It is counted unless its handling failed. -/
def serve (s : Service) (clock : Clock) (duration : Binary64) (r : Request)
    (heard : Clocks := .same clock) : Outcome :=
  let (endpoint, outcome) := s.route clock r heard
  match outcome.reply.raised? with
  | some _ => outcome
  | none =>
    let meters := outcome.service.meters.observeRequest r.method (Text.toPoints endpoint)
      (Text.toPoints (toString outcome.reply.status)) duration
    { outcome with service := { outcome.service with meters } }

end Service
end WalletTrust.Http
