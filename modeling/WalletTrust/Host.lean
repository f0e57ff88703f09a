import WalletTrust.Observer
import WalletTrust.Registry.Command
import WalletTrust.Registry.Snapshot

/-!
# Registries with an observer

A host carries out commands and passes the notices on. A failing observer is reported and changes
nothing else. Observers may hear other clocks than the registry does.
-/

namespace WalletTrust

structure Host where
  registry : Registry
  observer : Observer
  deriving Inhabited

namespace Host

def onRegistry {α : Type} (x : Process Registry α) : Process Host α :=
  .on registry (fun h registry => { h with registry }) x

def onObserver {α : Type} (x : Process Observer α) : Process Host α :=
  .on observer (fun h observer => { h with observer }) x

/-- Informs the observer of a notice, if there is one. It hears the given clocks. -/
def inform (heard : Clocks) : Option Notice → Process Host Unit
  | none => pure ()
  | some n => onObserver fun o =>
    o.settled .registry "notifier_failed" (.text n.kind.hook) (o.receive heard n)

/-- Carries out a command, and then informs the observer. The answer says whether the command was
accepted. -/
def perform (clock : Clock) (c : Command) (heard : Clocks := .same clock) : Process Host Bool := do
  let commit ← onRegistry (Registry.perform clock c)
  inform heard commit.notice?
  return commit.accepted

end Host
end WalletTrust
