import WalletTrust.Environment.Basic
import WalletTrust.Environment.File

/-!
# Loading a file into an environment

Values may refer to other names, of the environment or of lines above. Loading gives values to names
that have none and never changes a name that is present. A variable can switch it off.
-/

namespace WalletTrust.Environment

/-- Values of the names of a file so far; a name may have none. -/
abbrev Values := List (String × Option Text.Points)

def Values.get? (values : Values) (name : String) : Option (Option Text.Points) :=
  (values.find? (·.1 == name)).map (·.2)

/-- What a reference stands for: the environment comes before the file, and a default after both. -/
def resolve (env : Environment) (values : Values) (name default : String) : Text.Points :=
  match env.valueOf? name with
  | some v => v
  | none => match values.get? name with
    | some v => v.getD []
    | none => Text.toPoints default

/-- A reference behind a dollar sign and an opening brace: its name, its default, and its length. -/
def reference? (s : List Char) : Option (String × String × Nat) :=
  let name := s.takeWhile fun c => c != '\x7d' && c != ':'
  match s.drop name.length with
  | '\x7d' :: _ => some (String.ofList name, "", name.length + 1)
  | ':' :: '-' :: rest =>
    let default := rest.takeWhile (· != '\x7d')
    if rest.drop default.length = [] then none
    else some (String.ofList name, String.ofList default, name.length + default.length + 3)
  | _ => none

/-- Replaces the references in a text. The number counts characters of a reference still to skip. -/
def expandFrom (lookup : String → String → Text.Points) : Nat → List Char → Text.Points
  | _, [] => []
  | skip + 1, _ :: rest => expandFrom lookup skip rest
  | 0, c :: rest =>
    match if c = '$' ∧ rest.head? = some '\x7b' then reference? rest.tail else none with
    | some (name, default, length) =>
      lookup name default ++ expandFrom lookup (length + 1) rest
    | none => c.toNat :: expandFrom lookup 0 rest

def expand (env : Environment) (values : Values) (text : String) : Text.Points :=
  expandFrom (resolve env values) 0 text.toList

/-- The values of a file, with references replaced. Later values of a name come in front. -/
def valuesOf (env : Environment) : Values → List File.Binding → Values
  | values, [] => values
  | values, (name, v) :: rest => valuesOf env ((name, v.map (expand env values)) :: values) rest

def namesOf (bindings : List File.Binding) : List String :=
  (bindings.map (·.1)).eraseDups

def referredTo : List Char → List String
  | [] => []
  | c :: rest =>
    let found := if c = '$' ∧ rest.head? = some '\x7b' then reference? rest.tail else none
    (found.map (·.1)).toList ++ referredTo rest

def loadingSwitch : String := "PYTHON_DOTENV_DISABLED"

/-- Letters without the distinction of case, as far as words of ASCII letters are concerned. -/
def foldCase (point : Nat) : Nat :=
  if point = 'ſ'.toNat then 's'.toNat
  else if 0x41 ≤ point ∧ point ≤ 0x5a then point + 0x20
  else point

def isSwitchedOff (env : Environment) : Bool :=
  match env.valueOf? loadingSwitch with
  | some v => (["1", "true", "t", "yes", "y"].map Text.toPoints).contains (v.map foldCase)
  | none => false

/-- The names whose values in the environment decide what loading a file does. -/
def mentioned (text : String) : List String :=
  (loadingSwitch :: (namesOf (File.bindings text) ++ referredTo text.toList)).eraseDups

def adopt (values : Values) (env : Environment) (name : String) : Except Failure Environment :=
  match values.get? name with
  | some (some v) => env.defineAbsent (Text.toPoints name) v
  | _ => .ok env

def adoptAll (values : Values) (env : Environment) : List String → Except Failure Environment
  | [] => .ok env
  | name :: rest => do
    let env ← adopt values env name
    adoptAll values env rest

/-- The environment after a file was loaded; without a file it stays. -/
def load (env : Environment) (file? : Option String) : Except Failure Environment :=
  match file? with
  | none => .ok env
  | some text =>
    if env.isSwitchedOff then .ok env
    else
      let bindings := File.bindings text
      adoptAll (valuesOf env [] bindings) env (namesOf bindings)

end WalletTrust.Environment
