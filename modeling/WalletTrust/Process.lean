import WalletTrust.Log.Line

/-!
# Operations on a state

An operation may have changed its state, and logged, before it fails. Its answer, the state that it
leaves and its log therefore stand side by side, and whoever goes on after a failure goes on from
the state that is left.
-/

namespace WalletTrust

/-- What becomes of an operation, whether it fails or not. -/
@[ext] structure Effect (σ α : Type) where
  answer : Except Failure α
  state : σ
  log : List Log.Entry := []

def Process (σ α : Type) := σ → Effect σ α

namespace Effect

variable {σ τ α β : Type}

/-- Goes on in the state that is left, unless something failed. -/
def andThen (e : Effect σ α) (f : α → Process σ β) : Effect σ β :=
  match e.answer with
  | .ok a => { f a e.state with log := e.log ++ (f a e.state).log }
  | .error f => ⟨.error f, e.state, e.log⟩

/-- Goes on after a failure, in the state that it left. -/
def rescue (e : Effect σ α) (f : Failure → Process σ α) : Effect σ α :=
  match e.answer with
  | .ok _ => e
  | .error failure => { f failure e.state with log := e.log ++ (f failure e.state).log }

/-- The effect on a whole that the state is a part of. -/
def within (e : Effect σ α) (put : σ → τ) : Effect τ α := ⟨e.answer, put e.state, e.log⟩

end Effect

namespace Process

variable {σ τ α β : Type}

instance : Monad (Process σ) where
  pure a := fun s => ⟨.ok a, s, []⟩
  bind x f := fun s => (x s).andThen f

def read (f : σ → α) : Process σ α := fun s => ⟨.ok (f s), s, []⟩

def modify (f : σ → σ) : Process σ Unit := fun s => ⟨.ok (), f s, []⟩

def tell (entries : List Log.Entry) : Process σ Unit := fun s => ⟨.ok (), s, entries⟩

/-- Asks something of the state that may fail and be logged, but changes nothing. -/
def ask (op : σ → Logged α) : Process σ α := fun s => ⟨(op s).answer, s, (op s).log⟩

/-- Asks something that the state may have no answer to. -/
def query (f : σ → Except Failure α) : Process σ α := ask fun s => .ofExcept (f s)

def ofExcept (answer : Except Failure α) : Process σ α := query fun _ => answer

def fail (f : Failure) : Process σ α := ofExcept (.error f)

def rescue (x : Process σ α) (f : Failure → Process σ α) : Process σ α := fun s => (x s).rescue f

def on (part : σ → τ) (put : σ → τ → σ) (x : Process τ α) : Process σ α :=
  fun s => (x (part s)).within (put s)

/-! ## Carrying operations out -/

@[simp] theorem pure_apply (a : α) (s : σ) : (pure a : Process σ α) s = ⟨.ok a, s, []⟩ := rfl

@[simp] theorem bind_apply (x : Process σ α) (f : α → Process σ β) (s : σ) :
    (x >>= f) s = (x s).andThen f := rfl

@[simp] theorem read_apply (f : σ → α) (s : σ) : read f s = ⟨.ok (f s), s, []⟩ := rfl

@[simp] theorem modify_apply (f : σ → σ) (s : σ) : modify f s = ⟨.ok (), f s, []⟩ := rfl

@[simp] theorem tell_apply (entries : List Log.Entry) (s : σ) :
    tell entries s = ⟨.ok (), s, entries⟩ := rfl

@[simp] theorem ask_apply (op : σ → Logged α) (s : σ) :
    ask op s = ⟨(op s).answer, s, (op s).log⟩ := rfl

@[simp] theorem query_apply (f : σ → Except Failure α) (s : σ) : query f s = ⟨f s, s, []⟩ := rfl

@[simp] theorem ofExcept_apply (answer : Except Failure α) (s : σ) :
    ofExcept answer s = ⟨answer, s, []⟩ := rfl

@[simp] theorem fail_apply (f : Failure) (s : σ) : (fail f : Process σ α) s = ⟨.error f, s, []⟩ :=
  rfl

@[simp] theorem rescue_apply (x : Process σ α) (f : Failure → Process σ α) (s : σ) :
    x.rescue f s = (x s).rescue f := rfl

@[simp] theorem on_apply (part : σ → τ) (put : σ → τ → σ) (x : Process τ α) (s : σ) :
    on part put x s = (x (part s)).within (put s) := rfl

end Process

namespace Effect

variable {σ τ α β : Type}

@[simp] theorem andThen_ok (a : α) (s : σ) (log : List Log.Entry) (f : α → Process σ β) :
    (⟨.ok a, s, log⟩ : Effect σ α).andThen f =
      ⟨(f a s).answer, (f a s).state, log ++ (f a s).log⟩ := rfl

@[simp] theorem andThen_error (failure : Failure) (s : σ) (log : List Log.Entry)
    (f : α → Process σ β) :
    (⟨.error failure, s, log⟩ : Effect σ α).andThen f = ⟨.error failure, s, log⟩ := rfl

@[simp] theorem rescue_ok (a : α) (s : σ) (log : List Log.Entry) (f : Failure → Process σ α) :
    (⟨.ok a, s, log⟩ : Effect σ α).rescue f = ⟨.ok a, s, log⟩ := rfl

@[simp] theorem rescue_error (failure : Failure) (s : σ) (log : List Log.Entry)
    (f : Failure → Process σ α) :
    (⟨.error failure, s, log⟩ : Effect σ α).rescue f =
      ⟨(f failure s).answer, (f failure s).state, log ++ (f failure s).log⟩ := rfl

@[simp] theorem within_mk (answer : Except Failure α) (s : σ) (log : List Log.Entry)
    (put : σ → τ) :
    (⟨answer, s, log⟩ : Effect σ α).within put = ⟨answer, put s, log⟩ := rfl

end Effect
end WalletTrust
