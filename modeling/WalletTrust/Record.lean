import WalletTrust.Arguments
import WalletTrust.Status.Reading
import WalletTrust.Value.Integer

/-!
# Records of wallets

What is known of a wallet. A wallet that was never registered has the default record. Records that
come from outside may hold a status, a score and a time of any kind.
-/

namespace WalletTrust

structure Record where
  status : Value := .status .unknown
  trustScore : Value := .int 0
  updatedAt : Value := .int 0
  deriving Repr, Inhabited

namespace Record

def isActive (r : Record) : Bool :=
  match r.status with
  | .status s => s == .active
  | _ => false

/-- The record as named fields, unless its status has no name. -/
def fields (r : Record) : Except Failure (List (Value × Value)) := do
  let status ← Status.nameOf r.status
  .ok [(.text "status", status), (.text "trust_score", r.trustScore),
    (.text "updated_at", r.updatedAt)]

/-- A record is made from a status, a score and a time, each of which has a default. -/
def signature : Signature :=
  { call := "WalletAuthRecord.__init__", parameters := ["status", "trust_score", "updated_at"]
    defaults := 3 }

def ofList (values : List Value) : Except Failure Record := do
  signature.check values.length
  .ok ⟨values[0]?.getD (.status .unknown), values[1]?.getD (.int 0), values[2]?.getD (.int 0)⟩

/-- A record from named fields, in the order in which they are read; a field that is missing has its
default. -/
def ofFields (fields : List (Value × Value)) : Except Failure Record := do
  let status ← ((Value.field? "status" fields).getD (.status .unknown) |> Status.ofValue)
  let score ← ((Value.field? "trust_score" fields).getD (.int 0)).toInteger
  let time ← ((Value.field? "updated_at" fields).getD (.int 0)).toInteger
  .ok ⟨.status status, .int score, .int time⟩

def same (r s : Record) : Bool :=
  r.status.same s.status && r.trustScore.same s.trustScore && r.updatedAt.same s.updatedAt

end Record

/-- Why a look-up found a record or not. -/
inductive LookupOutcome where
  | ok
  | invalidAddress
  | notFound
  deriving DecidableEq, Repr

namespace LookupOutcome

def all : List LookupOutcome := [.ok, .invalidAddress, .notFound]

def name : LookupOutcome → String
  | .ok => "ok"
  | .invalidAddress => "invalid_address"
  | .notFound => "not_found"

def ofValue (v : Value) : Except Failure LookupOutcome :=
  match all.find? fun outcome => (Value.text outcome.name).same v with
  | some outcome => .ok outcome
  | none => .error (.showing v (.noChoice v "LookupOutcome"))

end LookupOutcome

/-- The answer to a look-up: the default record unless one was found. -/
structure Lookup where
  outcome : LookupOutcome
  record : Record := {}

namespace Lookup

def found (l : Lookup) : Bool := l.outcome == .ok

def fields (l : Lookup) : Except Failure (List (Value × Value)) := do
  let record ← l.record.fields
  .ok [(.text "outcome", .text l.outcome.name), (.text "record", .map record)]

end Lookup

end WalletTrust
