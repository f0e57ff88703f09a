import WalletTrust.Environment.Loading

/-!
# Reading an environment that a file adds to

An operation may add to the environment before it fails, so its answer and the environment that it
leaves stand side by side.
-/

namespace WalletTrust.Environment

/-- An operation that answers from an environment and may change it, even if it fails. -/
def Access (α : Type) := Environment → Except Failure α × Environment

namespace Access

variable {α β : Type}

/-- The second operation finds the environment that the first one left. -/
def andThen (x : Access α) (f : α → Access β) : Access β := fun env =>
  match x env with
  | (.ok a, env) => f a env
  | (.error e, env) => (.error e, env)

instance : Monad Access where
  pure a := fun env => (.ok a, env)
  bind := andThen

def read (f : Environment → α) : Access α := fun env => (.ok (f env), env)

def adopt (values : Values) (name : String) : Access Unit := fun env =>
  match env.adopt values name with
  | .ok env => (.ok (), env)
  | .error f => (.error f, env)

def adoptAll (values : Values) : List String → Access Unit
  | [] => pure ()
  | name :: rest => do
    adopt values name
    adoptAll values rest

def load (file? : Option String) : Access Unit := fun env =>
  match file? with
  | none => (.ok (), env)
  | some text =>
    if env.isSwitchedOff then (.ok (), env)
    else
      let bindings := File.bindings text
      adoptAll (valuesOf env [] bindings) (namesOf bindings) env

theorem bind_of_ok {x : Access α} {env next : Environment} {a : α} (h : x env = (.ok a, next))
    (f : α → Access β) : (x >>= f) env = f a next := by
  show andThen x f env = _
  rw [andThen, h]

theorem bind_of_error {x : Access α} {env next : Environment} {e : Failure}
    (h : x env = (.error e, next)) (f : α → Access β) : (x >>= f) env = (.error e, next) := by
  show andThen x f env = _
  rw [andThen, h]

theorem adoptAll_cons_of_ok {values : Values} {env next : Environment} {name : String}
    (h : env.adopt values name = .ok next) (names : List String) :
    adoptAll values (name :: names) env = adoptAll values names next := by
  have hstep : adopt values name env = (.ok (), next) := by rw [adopt, h]
  rw [adoptAll, bind_of_ok hstep]

theorem adoptAll_cons_of_error {values : Values} {env : Environment} {name : String} {f : Failure}
    (h : env.adopt values name = .error f) (names : List String) :
    adoptAll values (name :: names) env = (.error f, env) := by
  have hstep : adopt values name env = (.error f, env) := by rw [adopt, h]
  rw [adoptAll, bind_of_error hstep]

/-- A plain load is the same, but forgets the environment that is left if it fails. -/
theorem adoptAll_eq (values : Values) (names : List String) (env : Environment) :
    env.adoptAll values names =
      (adoptAll values names env).1.map fun _ => (adoptAll values names env).2 := by
  induction names generalizing env with
  | nil => rfl
  | cons name names ih =>
    cases h : env.adopt values name with
    | error f =>
      rw [Environment.adoptAll, h, adoptAll_cons_of_error h]
      rfl
    | ok next =>
      rw [Environment.adoptAll, h, adoptAll_cons_of_ok h, ← ih]
      rfl

theorem load_eq (file? : Option String) (env : Environment) :
    env.load file? = (load file? env).1.map fun _ => (load file? env).2 := by
  cases file? with
  | none => rfl
  | some text =>
    simp only [Environment.load, load]
    split
    · rfl
    · exact adoptAll_eq _ _ _

end Access
end WalletTrust.Environment
