import WalletTrust.Failure
import WalletTrust.Text.Raw

/-!
# Environments

An environment gives values to names. A name is not empty and has no equals sign in it, and
neither a name nor a value has a character of code zero. Names and values are texts made of raw
bytes.
-/

namespace WalletTrust

/-- Names with their values. Of equal names the first counts. -/
abbrev Environment := List (Text.Points × Text.Points)

namespace Environment

def get? (env : Environment) (name : Text.Points) : Option Text.Points :=
  (env.find? (·.1 == name)).map (·.2)

def valueOf? (env : Environment) (name : String) : Option Text.Points :=
  env.get? (Text.toPoints name)

def set (env : Environment) (name value : Text.Points) : Environment := (name, value) :: env

/-- What an environment keeps of a text: its bytes, none of which may be zero. -/
def kept (points : Text.Points) : Except Failure Text.Points :=
  match Text.bytesOf? points with
  | none => .error .notEncodable
  | some bytes => .ok (Text.ofBytes bytes)

/-- Gives a value to a name, if an environment can hold both. -/
def define (env : Environment) (name value : Text.Points) : Except Failure Environment := do
  let name ← kept name
  let value ← kept value
  if name.contains 0 || value.contains 0 then .error .zeroByte
  else if name.contains 0x3d then .error .badVariable
  else if name.isEmpty then .error .noVariable
  else .ok (env.set name value)

def textOf : Value → Except Failure Text.Points
  | .text s => .ok (Text.toPoints s)
  | .status s => .ok (Text.toPoints s.name)
  | .broken points => .ok points
  | v => .error (.noText v.kind)

def defineAll (env : Environment) : List (Value × Value) → Except Failure Environment
  | [] => .ok env
  | (name, value) :: rest => do
    let name ← textOf name >>= kept
    let value ← textOf value
    let env ← env.define name value
    defineAll env rest

def defineAbsent (env : Environment) (name value : Text.Points) : Except Failure Environment :=
  if (env.get? name).isSome then .ok env else env.define name value

theorem get?_set (env : Environment) (name value other : Text.Points) :
    (env.set name value).get? other = if name = other then some value else env.get? other := by
  by_cases h : name = other <;> simp [set, get?, h]

end Environment
end WalletTrust
