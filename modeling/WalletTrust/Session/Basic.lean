import WalletTrust.Session.HookCall
import WalletTrust.Startup

/-!
# Sessions

A session holds what an operator works with: a registry with its observer, a clock, an authority, a
store, and a service. Its actions change and read the registry directly or on behalf of a caller,
call hooks, use and edit the database, start a service from a configuration and send it requests.
-/

namespace WalletTrust

structure Session where
  /-- The observer of the session, if it has one of its own. -/
  observer? : Option Observer := some (.recorder [])
  clock : Clock := some (.int 1700000000)
  authority : Authority := .admin
  registry? : Option Registry := none
  /-- Whether the registry was started from a configuration, so that it has a journal for an
  observer and only its administrator may change it by requests. -/
  started : Bool := false
  store? : Option Store := none
  /-- The places that hold something, as long as there is no store. -/
  disk : Disk := []
  meters : Meters := {}
  /-- Whether the service of the registry was put up. -/
  served : Bool := false

namespace Session

inductive Action where
  | create (admin : Value)
  | restore (s : Snapshot)
  | roundTrip
  /-- A command, on behalf of a caller if there is one. -/
  | perform (caller? : Option Value) (c : Command)
  | recordOf (wallet : Value)
  | lookup (wallet : Value)
  | recordsOf (wallets : Value)
  | admin
  | next
  | isAdmin (address : Value)
  | contains (wallet : Value)
  | size
  | snapshot
  | permits (caller : Value)
  | setClock (clock : Clock)
  | clearEvents
  | kinds
  | callHook (hook : Value) (args : List Value)
  | initialise
  | save
  | saveSnapshot (s : Snapshot)
  | load
  | loadRegistry (admin : Value)
  | reopen
  | dropTables
  | putRow (wallet status score time : Value)
  | putProperty (key value : Value)
  | removeRow (wallet : Value)
  | removeProperty (key : Value)
  | tables
  /-- A start in the environment of given variables, after its file was written if a text is given
  for it. -/
  | start (given : List (Value × Value)) (file? : Option Text.Points)
  | request (duration : Binary64) (r : Http.Request)

inductive Result where
  | nothing
  | flag (b : Bool)
  | count (n : Nat)
  | text (s : String)
  | record (r : Record)
  | lookup (l : Lookup)
  | records (rs : List (Value × Record))
  | snapshot (s? : Option Snapshot)
  | kinds (ks : List (List EventKind))
  | tables (t : Store.Tables)
  | reply (r : Http.Reply)

structure Step where
  session : Session
  result : Except Failure Result
  log : List Log.Entry := []

/-- The observer of the present registry. -/
def watcher (s : Session) : Observer :=
  if s.started then .journal else s.observer?.getD .journal

/-- The observer of the session after the watcher of the registry received notices. -/
def observerAfter (s : Session) (watcher : Observer) : Option Observer :=
  if s.started then s.observer? else s.observer?.map fun _ => watcher

def withHost (s : Session) (h : Host) : Session :=
  { s with registry? := some h.registry, observer? := s.observerAfter h.observer }

/-- The session with another registry, which its own observer watches. -/
def withRegistry (s : Session) (r : Registry) : Session :=
  { s with registry? := some r, started := false, served := false }

/-- The authority that requests are checked by. -/
def requestAuthority (s : Session) : Authority := if s.started then .admin else s.authority

def read (s : Session) (result : Except Failure Result) : Step := ⟨s, result, []⟩

def ask {α : Type} (s : Session) (op : Logged α) (result : α → Result) : Step :=
  ⟨s, op.answer.map result, op.log⟩

/-- Takes over what an operation left of a part of the session, whether it failed or not. -/
def leave {σ α : Type} (e : Effect σ α) (put : σ → Session) (result : α → Result) : Step :=
  ⟨put e.state, e.answer.map result, e.log⟩

def onRegistry (s : Session) (f : Registry → Step) : Step :=
  match s.registry? with
  | some r => f r
  | none => s.read (.error .noRegistry)

def withStore (s : Session) (store : Store) : Session := { s with store? := some store }

/-- The store, which must be there; `member` names what is asked of it. -/
def needStore (s : Session) (member : String) (f : Store → Step) : Step :=
  match s.store? with
  | some store => f store
  | none => s.read (.error (.noAttribute "NoneType" (.text member)))

/-- An action on the database of the store, which starts by trying to connect to it. -/
def onStore (s : Session) (member : String) (f : Session → Store → Step) : Step :=
  s.needStore member fun store => f (s.withStore store.touched) store.touched

def changeStore (s : Session) (e : Effect Store Unit) : Step :=
  leave e s.withStore fun _ => .nothing

def edit (s : Session) (f : Store.Tables → Except Failure Store.Tables) : Step :=
  s.onStore "_session_scope" fun s store => s.changeStore (store.edit f)

def replace (s : Session) (op : Logged Registry) : Step :=
  match op.answer with
  | .ok r => ⟨s.withRegistry r, .ok (.flag true), op.log⟩
  | .error f => ⟨s, .error f, op.log⟩

def perform (s : Session) (caller? : Option Value) (c : Command) (r : Registry)
    (heard : Clocks := .same s.clock) : Step :=
  let x := match caller? with
    | some caller => Host.performAs s.authority s.clock caller c heard
    | none => Host.perform s.clock c heard
  leave (x ⟨r, s.watcher⟩) s.withHost .flag

def callHook (s : Session) (hook : Value) (args : List Value) : Step :=
  leave (performCall s.clock hook args (s.observer?.getD .nobody))
    (fun o => { s with observer? := s.observer?.map fun _ => o }) fun _ => .nothing

def places (s : Session) : Disk := (s.store?.map Store.disk).getD s.disk

/-- The session with other places. Memory is lost unless its store is there. -/
def withPlaces (s : Session) (disk : Disk) : Session :=
  let disk := disk.kept (s.store?.map Store.location)
  { s with disk, store? := s.store?.map fun store => { store with disk } }

/-- Starts a service in an environment; its registry and its store become those of the session. -/
def startIn (s : Session) (env : Environment) : Step :=
  let c := Configuration.ofEnvironment env
  let (op, disk) := Startup.run c s.places
  match op.answer with
  | .ok startup =>
    let meters :=
      s.meters.setWallets (Http.Service.walletCount ⟨startup.registry, Observer.journal⟩)
    let next :=
      { s with
        registry? := some startup.registry, started := true, served := true
        store? := startup.store?, meters }
    ⟨next.withPlaces disk, .ok (.flag c.persist), op.log⟩
  | .error f => ⟨s.withPlaces disk, .error f, op.log⟩

/-- Writes the file of the environment. A text that cannot be encoded leaves it empty. -/
def writeFile (s : Session) (text : Text.Points) : Session × Except Failure Unit :=
  let written := fun text => s.withPlaces (s.places.set Startup.environmentFile (.text text))
  match Text.ofPoints? text with
  | some text => (written text, .ok ())
  | none => (written "", .error .notEncodable)

def start (s : Session) (given : List (Value × Value)) (file? : Option Text.Points) : Step :=
  let (s, written) := (file?.map s.writeFile).getD (s, .ok ())
  match written >>= fun _ => Environment.defineAll [] given >>= Startup.environmentOn s.places with
  | .ok env => s.startIn env
  | .error f => s.read (.error f)

/-- The service of the registry, which is put up if it was not. -/
def service (s : Session) (r : Registry) : Http.Service :=
  let service : Http.Service :=
    { host := ⟨r, s.watcher⟩, authority := s.requestAuthority, store? := s.store?
      meters := s.meters }
  if s.served then service else service.putUp

def request (s : Session) (duration : Binary64) (request : Http.Request) (r : Registry)
    (heard : Clocks := .same s.clock) : Step :=
  let outcome := (s.service r).serve s.clock duration request heard
  ⟨{ s.withHost outcome.service.host with
      store? := outcome.service.store?, meters := outcome.service.meters, served := true },
    .ok (.reply outcome.reply), outcome.log⟩

/-- Carries out an action. Whoever observes the registry may hear other clocks than it does. -/
def step (s : Session) (action : Action) (heard : Clocks := .same s.clock) : Step :=
  match action with
  | .create admin => s.replace (Logged.ofExcept (Registry.create admin))
  | .restore snapshot => s.replace (Registry.restore snapshot)
  | .roundTrip => s.onRegistry fun r => s.replace (Registry.restore r.snapshot)
  | .perform caller? c => s.onRegistry fun r => s.perform caller? c r heard
  | .recordOf wallet => s.onRegistry fun r => s.read (.ok (.record (r.recordOf wallet)))
  | .lookup wallet => s.onRegistry fun r => s.read (.ok (.lookup (r.lookup wallet)))
  | .recordsOf wallets => s.onRegistry fun r => s.read ((r.recordsIn wallets).map .records)
  | .admin => s.onRegistry fun r => s.read (.ok (.text r.admin))
  | .next => s.onRegistry fun r => s.read (.ok (.text r.next))
  | .isAdmin address => s.onRegistry fun r => s.read (.ok (.flag (r.isAdmin address)))
  | .contains wallet => s.onRegistry fun r => s.read ((r.contains wallet).map .flag)
  | .size => s.onRegistry fun r => s.read (.ok (.count r.size))
  | .snapshot => s.onRegistry fun r => s.read (.ok (.snapshot (some r.snapshot)))
  | .permits caller => s.onRegistry fun r => s.read ((s.authority.permits r caller).map .flag)
  | .setClock clock => ⟨{ s with clock }, .ok .nothing, []⟩
  | .clearEvents => ⟨{ s with observer? := s.observer?.map Observer.cleared }, .ok .nothing, []⟩
  | .kinds =>
    let events := (s.observer?.map Observer.recordings).getD []
    s.read (.ok (.kinds (events.map fun es => es.map (·.kind))))
  | .callHook hook args => s.callHook hook args
  | .initialise => s.onStore "init_db" fun s store => s.changeStore store.initialise
  | .save => s.onRegistry fun r => s.onStore "save" fun s store => s.changeStore (store.save r)
  | .saveSnapshot snapshot =>
    s.onStore "save_snapshot" fun s store => s.changeStore (store.saveSnapshot snapshot)
  | .load => s.onStore "load" fun s store => s.ask store.load .snapshot
  | .loadRegistry admin =>
    s.onStore "load_registry" fun s store => s.replace (store.loadRegistry admin)
  | .reopen => s.needStore "dispose" fun store => ⟨s.withStore store.reopen, .ok .nothing, []⟩
  | .dropTables =>
    s.onStore "_engine" fun s store => s.changeStore store.dropTables
  | .putRow wallet status score time =>
    s.edit fun t => (Store.rowOf wallet status score time).map t.putRow
  | .putProperty key value => s.edit fun t => (Store.propertyOf key value).map t.putProperty
  | .removeRow wallet => s.edit (·.removeRow wallet)
  | .removeProperty key => s.edit (·.removeProperty key)
  | .tables => s.onStore "_session_scope" fun s store =>
    s.read ((store.tables >>= Store.Tables.shown).map .tables)
  | .start given file? => s.start given file?
  | .request duration request => s.onRegistry fun r => s.request duration request r heard

end Session
end WalletTrust
