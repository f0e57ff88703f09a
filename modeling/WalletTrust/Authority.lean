import WalletTrust.Host

/-!
# Authority over a registry

An authority decides who may change a registry. It is asked before a command is looked at, and a
caller that it refuses learns nothing about the command.
-/

namespace WalletTrust

inductive Authority where
  /-- Only the present administrator may. -/
  | admin
  /-- Decides nothing and fails when asked. -/
  | undecided
  /-- Exactly these callers may. -/
  | allow (callers : List Value)
  /-- Fails with a given failure. -/
  | failing (f : Failure)
  /-- Decides by a rule of its own, which may fail as well. -/
  | rule (decide : Registry → Value → Except Failure Bool)

namespace Authority

def permits (a : Authority) (r : Registry) (caller : Value) : Except Failure Bool :=
  match a with
  | .admin => .ok (!caller.isEmpty && r.isAdmin caller)
  | .undecided => .error .notProvided
  | .allow callers => .ok (callers.any (·.same caller))
  | .failing f => .error f
  | .rule decide => decide r caller

/-- Refuses a caller in the name of an operation. The caller is logged in short before it is told
anything, so that one that cannot be shortened or written is told of that instead. -/
def refuse (caller : Value) (operation : String) : Logged Unit := do
  let shown ← Logged.ofExcept (Address.abbreviateCaller caller)
  Logged.report { source := .authority, level := .warning, event := "unauthorized_mutation"
                  fields := [("operation", .text operation), ("caller", shown)] }
  Logged.fail (.unauthorized caller (.text operation))

/-- Goes through only if the caller may change the registry. -/
def require (a : Authority) (r : Registry) (caller : Value) (operation : String) : Logged Unit := do
  let permitted ← Logged.ofExcept (a.permits r caller)
  if permitted then Logged.succeed () else refuse caller operation

end Authority

def Host.performAs (a : Authority) (clock : Clock) (caller : Value) (c : Command)
    (heard : Clocks := .same clock) : Process Host Bool := do
  Process.ask fun h => a.require h.registry caller c.operation
  perform clock c heard

end WalletTrust
