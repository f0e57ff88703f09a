import WalletTrust.Configuration
import WalletTrust.Http.Service

/-!
# Startup

A service that stores its registry restores it, or creates one, and saves it at once. What happened
to the files stays even if the startup fails.
-/

namespace WalletTrust

structure Startup where
  registry : Registry
  store? : Option Store := none

namespace Startup

def environmentFile : Store.Place := .file (.ofName ".env")

def environmentText (disk : Disk) : Except Failure (Option String) :=
  match disk.get? environmentFile with
  | none => .ok none
  | some content => content.text?.map some

/-- An environment with the values from its file, which is read unless loading is switched off. -/
def environmentOn (disk : Disk) (env : Environment) : Except Failure Environment :=
  if env.isSwitchedOff then .ok env else environmentText disk >>= env.load

/-- The store that a configuration names, once a connection was tried. -/
def connect (c : Configuration) (disk : Disk) : Except Failure Store :=
  (Store.connect c.databaseUrl disk).map Store.touched

/-- Restores or creates the registry of a store and saves it. -/
def restore (c : Configuration) : Process Store Registry := do
  let r ← Process.ask fun s => s.loadRegistry (.ofPoints c.adminAddress)
  Store.save r
  return r

def builtEntry (c : Configuration) : Log.Entry :=
  { source := .service, level := .info, event := "api_app_built", fields := c.fields }

def announce {σ : Type} (c : Configuration) : Process σ Unit := .tell [builtEntry c]

/-- The steps of a startup with a store, whose tables are created if they are missing. -/
def stored (c : Configuration) : Process Store Registry := do
  Store.initialise
  let r ← restore c
  announce c
  return r

/-- A startup and the places after it, seen from what it did to its store. -/
def ofStore (e : Effect Store Registry) : Logged Startup × Disk :=
  (⟨e.answer.map fun registry => { registry, store? := some e.state }, e.log⟩, e.state.disk)

def run (c : Configuration) (disk : Disk) : Logged Startup × Disk :=
  if c.persist then
    match connect c disk with
    | .error f => (.fail f, disk)
    | .ok s => ofStore (stored c s)
  else
    match Registry.create (.ofPoints c.adminAddress) with
    | .error f => (.fail f, disk)
    | .ok registry => (⟨.ok { registry }, [builtEntry c]⟩, disk)

structure Launch where
  host : Text.Points
  port : Int
  logLevel : Text.Points
  startup : Startup

def configurationError (f : Failure) : Log.Entry :=
  { source := .program, level := .error, event := "main_config_error"
    fields := [("message", .text "TURBOAUTH_ADMIN_ADDRESS must be 60 uppercase letters (A-Z)"),
      ("error", f.code?.getD .null)] }

def startingEntry (c : Configuration) : Log.Entry :=
  { source := .program, level := .info, event := "main_server_starting"
    fields := [("host", .ofPoints c.apiHost), ("port", .int c.apiPort)] }

/-- Starts and hands over to the web server. A bad address of the administrator ends the program. -/
def launch (env : Environment) (disk : Disk) : Logged Launch × Disk :=
  let c := Configuration.ofEnvironment env
  let (started, disk) := run c disk
  match started.answer with
  | .ok startup =>
    let logLevel := Configuration.serverLogLevel env
    (⟨.ok { host := c.apiHost, port := c.apiPort, logLevel, startup },
      started.log ++ [startingEntry c]⟩, disk)
  | .error f => match f with
    | .invalidAddress _ _ => (⟨.error (.exit 1), started.log ++ [configurationError f]⟩, disk)
    | _ => (⟨.error f, started.log⟩, disk)

end Startup
end WalletTrust
