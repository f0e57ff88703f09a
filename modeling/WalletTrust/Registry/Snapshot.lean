import WalletTrust.Log.Entry
import WalletTrust.Registry.Basic

/-!
# Snapshots of a registry

A snapshot is the whole state of a registry as it is kept elsewhere. Restoring it drops what no
registry would hold, and tells nobody but the log.
-/

namespace WalletTrust

structure Snapshot where
  admin : Value
  next : Value := .text ""
  records : List (Value × Record) := []
  deriving Repr, Inhabited

namespace Snapshot

/-- The records with one of them written: in the place of an equal key, else at the end. -/
def write (key : Value) (record : Record) : List (Value × Record) → List (Value × Record)
  | [] => [(key, record)]
  | (k, r) :: rest => if k.same key then (k, record) :: rest else (k, r) :: write key record rest

/-- A snapshot of listed records, of which a later one replaces an earlier one of the same key. -/
def ofList (admin next : Value) (records : List (Value × Record)) : Except Failure Snapshot :=
  match Value.unkeyableIn? (records.map (·.1)) with
  | some kind => .error (.noKey kind)
  | none => .ok
    { admin, next, records := records.foldl (fun kept (key, record) => write key record kept) [] }

def recordFields : List (Value × Record) → Except Failure (List (Value × Value))
  | [] => .ok []
  | (key, record) :: rest => do
    let fields ← record.fields
    let rest ← recordFields rest
    .ok ((key, .map fields) :: rest)

def fields (s : Snapshot) : Except Failure (List (Value × Value)) := do
  let records ← recordFields s.records
  .ok [(.text "admin_address", s.admin), (.text "next_contract_address", s.next),
    (.text "records", .map records)]

end Snapshot

namespace Registry

def snapshot (r : Registry) : Snapshot :=
  { admin := .text r.admin
    next := .text r.next
    records := r.records.map fun (wallet, record) => (.text wallet, record) }

/-- The entry that a registry can hold, if the key is an address and the score a score. -/
def admissible? (entry : Value × Record) : Option (String × Record) :=
  match Address.ofValue? entry.1 with
  | some wallet => if Score.isValid entry.2.trustScore then some (wallet, entry.2) else none
  | none => none

/-- The pointer to a successor that a registry can hold: a valid address, or none. -/
def admissibleNext (next : Value) : Logged String :=
  if next.isEmpty then .succeed ""
  else match Address.ofValue? next with
    | some next => .succeed next
    | none => ⟨.ok "", [{ source := .registry, level := .warning
                          event := "snapshot_next_contract_dropped"
                          fields := [("reason", .text "invalid_address")] }]⟩

def droppedEntries (count : Nat) : List Log.Entry :=
  if count = 0 then []
  else [{ source := .registry, level := .warning, event := "snapshot_records_dropped"
          fields := [("dropped", .int count)] }]

def restore (s : Snapshot) : Logged Registry := do
  let r ← Logged.ofExcept (create s.admin)
  let next ← admissibleNext s.next
  let records := s.records.filterMap admissible?
  Logged.tell (droppedEntries (s.records.length - records.length))
  return { r with next, records }

end Registry
end WalletTrust
