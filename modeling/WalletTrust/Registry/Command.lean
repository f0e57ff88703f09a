import WalletTrust.Event
import WalletTrust.Process
import WalletTrust.Registry.Basic

/-!
# Changes of a registry

A command is checked before anything is written. One that does not pass is rejected without a
change; one that passes is committed and leads to a notice, except that a new administrator is
announced to nobody.
-/

namespace WalletTrust

inductive Command where
  | setStatus (wallet status score : Value)
  | setNextContract (address : Value)
  | transferAdmin (address : Value)
  deriving Repr

def Command.operation : Command → String
  | .setStatus _ _ _ => "set_status"
  | .setNextContract _ => "set_next_contract"
  | .transferAdmin _ => "transfer_admin"

/-- Whether a command was accepted, and the notice to pass on. -/
structure Commit where
  accepted : Bool
  notice? : Option Notice := none

namespace Registry

def rejection (operation reason : String) (about : List (String × Value) := [])
    (detail : List (String × Value) := []) : Log.Entry :=
  { source := .registry, level := .debug, event := operation ++ "_rejected"
    fields := about ++ ("reason", .text reason) :: detail }

def addressRejection (operation : String) : Log.Entry := rejection operation "invalid_address"

def walletField (wallet : String) : List (String × Value) :=
  [("wallet_id", Address.abbreviate wallet)]

def reject (entry : Log.Entry) : Process Registry Commit := do
  Process.tell [entry]
  return { accepted := false }

def withStatus (r : Registry) (wallet : String) (status : Status) (score now : Value) : Registry :=
  { r with records := write wallet ⟨.status status, score, now⟩ r.records }

/-- What observers are told of a written status: a wallet of unknown status counts as new. -/
def statusNotice (r : Registry) (wallet : String) (status : Status) (score : Value) : Notice :=
  match r.statusOf wallet with
  | .status .unknown => .registered (.text wallet) (.status status) score
  | old => .statusChanged (.text wallet) old (.status status) score

/-- Writes a status for a wallet. The clock is read before anything is written. -/
def writeStatus (clock : Clock) (wallet : String) (status : Status) (score : Value) :
    Process Registry Commit := do
  let notice ← Process.read fun r => r.statusNotice wallet status score
  let now ← Process.ofExcept clock.read
  Process.modify fun r => r.withStatus wallet status score now
  return { accepted := true, notice? := some notice }

def setStatus (clock : Clock) (wallet status score : Value) : Process Registry Commit :=
  match Address.ofValue? wallet with
  | none => reject (addressRejection "set_status")
  | some wallet =>
    if Score.isValid score then
      match status with
      | .status status => writeStatus clock wallet status score
      | _ => reject (rejection "set_status" "invalid_status" (walletField wallet))
    else
      reject (rejection "set_status" "invalid_trust_score" (walletField wallet)
        [("trust_score", score)])

def setNextContract (address : Value) : Process Registry Commit :=
  match Address.ofValue? address with
  | none => reject (addressRejection "set_next_contract")
  | some next => do
    Process.modify fun r => { r with next }
    return { accepted := true, notice? := some (.contractUpgraded (.text next)) }

def transferAdmin (address : Value) : Process Registry Commit :=
  match Address.ofValue? address with
  | none => reject (addressRejection "transfer_admin")
  | some admin => do
    Process.modify fun r => { r with admin }
    Process.tell [{ source := .registry, level := .info, event := "admin_transferred"
                    fields := [("new_admin", Address.abbreviate admin)] }]
    return { accepted := true }

/-- Carries out a command at the time of a clock, which only a written status reads. -/
def perform (clock : Clock) : Command → Process Registry Commit
  | .setStatus wallet status score => setStatus clock wallet status score
  | .setNextContract address => setNextContract address
  | .transferAdmin address => transferAdmin address

end Registry
end WalletTrust
