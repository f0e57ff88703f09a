import WalletTrust.Arguments
import WalletTrust.Status.Reading

/-!
# Events of a registry

A notice says what a change was about; an event is a notice that was kept, with the time at which it
was received.
-/

namespace WalletTrust

/-- The reading of a clock, or nothing if the clock fails. -/
abbrev Clock := Option Value

namespace Clock

def read : Clock → Except Failure Value
  | some now => .ok now
  | none => .error .clockFailed

end Clock

inductive EventKind where
  | registered
  | statusChanged
  | contractUpgraded
  deriving DecidableEq, Repr

namespace EventKind

def all : List EventKind := [.registered, .statusChanged, .contractUpgraded]

def name : EventKind → String
  | .registered => "Registered"
  | .statusChanged => "StatusChanged"
  | .contractUpgraded => "ContractUpgraded"

def hook : EventKind → String
  | .registered => "on_registered"
  | .statusChanged => "on_status_changed"
  | .contractUpgraded => "on_contract_upgraded"

def ofHook? (s : String) : Option EventKind := all.find? fun kind => kind.hook == s

def ofValue (v : Value) : Except Failure EventKind :=
  match all.find? fun kind => (Value.text kind.name).same v with
  | some kind => .ok kind
  | none => .error (.showing v (.noChoice v "EventKind"))

end EventKind

inductive Notice where
  | registered (wallet status score : Value)
  | statusChanged (wallet old new score : Value)
  | contractUpgraded (address : Value)
  deriving Repr

def Notice.kind : Notice → EventKind
  | .registered _ _ _ => .registered
  | .statusChanged _ _ _ _ => .statusChanged
  | .contractUpgraded _ => .contractUpgraded

/-- An event that was kept. Fields that do not belong to its kind are null. -/
structure Event where
  kind : EventKind
  wallet : Value := .null
  status : Value := .null
  oldStatus : Value := .null
  trustScore : Value := .null
  contractAddress : Value := .null
  emittedAt : Value := .int 0
  deriving Repr

namespace Event

def ofNotice (n : Notice) (now : Value) : Event :=
  match n with
  | .registered wallet status score =>
    { kind := .registered, wallet, status, trustScore := score, emittedAt := now }
  | .statusChanged wallet old new score =>
    { kind := .statusChanged, wallet, oldStatus := old, status := new, trustScore := score
      emittedAt := now }
  | .contractUpgraded address =>
    { kind := .contractUpgraded, contractAddress := address, emittedAt := now }

def optional (name : String) (v : Value) (shown : Value → Except Failure Value) :
    Except Failure (List (Value × Value)) :=
  match v with
  | .null => .ok []
  | v => (shown v).map fun w => [(.text name, w)]

def fields (e : Event) : Except Failure (List (Value × Value)) := do
  let wallet ← optional "wallet" e.wallet .ok
  let oldStatus ← optional "old_status" e.oldStatus Status.nameOf
  let status ← optional "status" e.status Status.nameOf
  let score ← optional "trust_score" e.trustScore .ok
  let address ← optional "contract_address" e.contractAddress .ok
  .ok ([(.text "kind", .text e.kind.name), (.text "emitted_at", e.emittedAt)] ++ wallet ++
    oldStatus ++ status ++ score ++ address)

def signature : Signature :=
  { call := "RegistryEvent.__init__"
    parameters := ["kind", "wallet", "status", "old_status", "trust_score", "contract_address",
      "emitted_at"]
    defaults := 6 }

/-- The failure of the first field that no event has, if there is one. One of the names is that of
the event itself. -/
def strayField? (fields : List (Value × Value)) : Option Failure :=
  fields.findSome? fun field => match field.1 with
    | .text name =>
      if name ∈ signature.parameters then none
      else if name = Signature.object then some (signature.repeated name)
      else some (signature.unexpected name)
    | _ => none

/-- An event of a kind with its other fields from named ones: those that are missing are null, and
the time is zero. -/
def withFields (kind : EventKind) (fields : List (Value × Value)) : Event :=
  let get := fun name => (Value.field? name fields).getD .null
  { kind, wallet := get "wallet", status := get "status", oldStatus := get "old_status"
    trustScore := get "trust_score", contractAddress := get "contract_address"
    emittedAt := (Value.field? "emitted_at" fields).getD (.int 0) }

/-- An event from named fields, of which the kind is read first: it has to be there. -/
def ofFields (fields : List (Value × Value)) : Except Failure Event :=
  match Value.field? "kind" fields with
  | none => .error .noEntry
  | some named => do
    let kind ← EventKind.ofValue named
    match strayField? fields with
    | some f => .error f
    | none => .ok (withFields kind fields)

end Event
end WalletTrust
