import WalletTrust.Failure

/-!
# Log entries and operations that log

An operation may log before it fails, so its answer and its log stand side by side.
-/

namespace WalletTrust

namespace Log

inductive Level where
  | debug
  | info
  | warning
  | error
  | critical
  deriving DecidableEq, Repr

namespace Level

def name : Level → String
  | .debug => "debug"
  | .info => "info"
  | .warning => "warning"
  | .error => "error"
  | .critical => "critical"

/-- Entries below a threshold are not written. -/
def rank : Level → Nat
  | .debug => 10
  | .info => 20
  | .warning => 30
  | .error => 40
  | .critical => 50

end Level

inductive Source where
  | registry
  | observer
  | authority
  | store
  | service
  | program
  deriving DecidableEq, Repr

def Source.name : Source → String
  | .registry => "backend_turboauth.registry.contract"
  | .observer => "backend_turboauth.registry.notifier"
  | .authority => "backend_turboauth.registry.guard"
  | .store => "backend_turboauth.database.registry_store"
  | .service => "backend_turboauth.api_server.server"
  | .program => "main"

structure Entry where
  source : Source
  level : Level
  event : String
  fields : List (String × Value) := []

end Log

/-- What an operation answers, and what it logs on the way. -/
structure Logged (α : Type) where
  answer : Except Failure α
  log : List Log.Entry

namespace Logged

variable {α β : Type}

def succeed (a : α) : Logged α := ⟨.ok a, []⟩

def fail (f : Failure) : Logged α := ⟨.error f, []⟩

def tell (entries : List Log.Entry) : Logged Unit := ⟨.ok (), entries⟩

def ofExcept (answer : Except Failure α) : Logged α := ⟨answer, []⟩

/-- The second operation runs only if the first succeeds; what the first logged stays. -/
def andThen (x : Logged α) (f : α → Logged β) : Logged β :=
  match x.answer with
  | .ok a => ⟨(f a).answer, x.log ++ (f a).log⟩
  | .error e => ⟨.error e, x.log⟩

instance : Monad Logged where
  pure := succeed
  bind := andThen

@[simp] theorem pure_eq (a : α) : (pure a : Logged α) = ⟨.ok a, []⟩ := rfl

@[simp] theorem bind_ok (a : α) (log : List Log.Entry) (f : α → Logged β) :
    ((⟨.ok a, log⟩ : Logged α) >>= f) = ⟨(f a).answer, log ++ (f a).log⟩ := rfl

@[simp] theorem bind_error (e : Failure) (log : List Log.Entry) (f : α → Logged β) :
    ((⟨.error e, log⟩ : Logged α) >>= f) = ⟨.error e, log⟩ := rfl

end Logged
end WalletTrust
