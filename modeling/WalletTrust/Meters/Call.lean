import WalletTrust.Arguments
import WalletTrust.Meters.Basic
import WalletTrust.Value.Real

/-!
# Meters fed with values

Labels are the display forms of values; the count of wallets is read as a real number, and a
duration is added as one.
-/

namespace WalletTrust.Meters

inductive Call where
  | observeRequest (method endpoint status duration : Value)
  | recordMutation (operation outcome : Value)
  | recordSaveFailure (operation : Value)
  | setWallets (count : Value)

def signature? (name : String) : Option Signature :=
  let parameters? := match name with
    | "observe_request" => some ["method", "endpoint", "status", "duration"]
    | "record_mutation" => some ["operation", "outcome"]
    | "record_save_failure" => some ["operation"]
    | "set_registered_wallets" => some ["count"]
    | _ => none
  parameters?.map fun parameters => { call := name, parameters, ahead := 0 }

def Call.ofArguments (name : String) (args : List Value) : Except Failure Call := do
  match signature? name with
  | none => .error .noEntry
  | some s => do
    s.check args.length
    match name, args with
    | "observe_request", [method, endpoint, status, duration] =>
      .ok (.observeRequest method endpoint status duration)
    | "record_mutation", [operation, outcome] => .ok (.recordMutation operation outcome)
    | "record_save_failure", [operation] => .ok (.recordSaveFailure operation)
    | "set_registered_wallets", [count] => .ok (.setWallets count)
    | _, _ => .error .noEntry

def call (m : Meters) : Call → Except Failure Meters
  | .observeRequest method endpoint status duration =>
    duration.summand.map
      (m.observeRequest method.display endpoint.display status.display)
  | .recordMutation operation outcome => .ok (m.recordMutation operation.display outcome.display)
  | .recordSaveFailure operation => .ok (m.recordSaveFailure operation.display)
  | .setWallets count => count.toReal.map m.setWallets

end WalletTrust.Meters
