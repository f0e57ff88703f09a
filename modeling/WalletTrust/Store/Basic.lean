import WalletTrust.Store.Transaction

/-!
# Stores of a registry

A store replaces what a database holds by a snapshot, all of it or nothing, and restores a registry
from it.
-/

namespace WalletTrust.Store

def entry (level : Log.Level) (event : String) (fields : List (String × Value) := []) : Log.Entry :=
  { source := .store, level, event, fields }

def initialise : Process Store Unit := do
  created.rescue fun f => do
    Process.tell [entry .error "registry_store_init_db_failed"]
    Process.fail f
  let url ← Process.read url
  Process.tell [entry .info "registry_store_init_db" [("url", maskUrl url)]]

def saveSnapshot (snapshot : Snapshot) : Process Store Unit := do
  transaction (replace snapshot)
  Process.tell [entry .debug "registry_saved" [("wallets", .int snapshot.records.length)]]

def save (r : Registry) : Process Store Unit := saveSnapshot r.snapshot

def droppedEntries (count : Nat) : List Log.Entry :=
  if count = 0 then []
  else [entry .warning "registry_rows_dropped"
    [("reason", .text "invalid_status"), ("dropped", .int count)]]

def load (s : Store) : Logged (Option Snapshot) := do
  let found ← Logged.ofExcept (s.tables >>= Tables.snapshot?)
  match found with
  | none => return none
  | some (snapshot, dropped) =>
    Logged.tell (droppedEntries dropped)
    return some snapshot

/-- The registry that is stored, or else a new one of the given administrator. -/
def loadRegistry (s : Store) (admin : Value) : Logged Registry := do
  match ← s.load with
  | none =>
    Logged.tell [entry .info "registry_created" [("source", .text "default_admin")]]
    Logged.ofExcept (Registry.create admin)
  | some snapshot =>
    Logged.tell [entry .info "registry_restored"
      [("wallets", .int snapshot.records.length),
        ("has_next_contract", .bool !snapshot.next.isEmpty)]]
    Registry.restore snapshot

/-- Saves on behalf of a request. Requests are served on connections of their own, and a database in
memory belongs to one connection unless it is shared, so that a request finds no tables in it. -/
def saveForRequest (r : Registry) : Process Store Unit := do
  match ← Process.read location with
  | .own false _ => Process.fail (.database .missing)
  | _ => save r

end WalletTrust.Store
