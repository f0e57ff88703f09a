import WalletTrust.Failure

/-!
# Arguments of a call

A call takes a row of parameters, the last of which may have defaults. A call with too few or too
many values, or with a value for a parameter that has one already, fails and names what is wrong.
-/

namespace WalletTrust

structure Signature where
  call : String
  parameters : List String
  /-- How many of the last parameters have a default. -/
  defaults : Nat := 0
  /-- How many values a call takes in front of its parameters: one if it belongs to an object. -/
  ahead : Nat := 1

namespace Signature

/-- The parameter that is the object which a call belongs to. -/
def object : String := "self"

def quotedName (name : String) : String := "'" ++ name ++ "'"

/-- Names in a row, with a conjunction before the last one. -/
def enumerated (names : List String) : String :=
  match names.map quotedName with
  | [] => ""
  | [a] => a
  | [a, b] => a ++ " and " ++ b
  | many => String.intercalate ", " many.dropLast ++ ", and " ++ many.getLast?.getD ""

def needed (s : Signature) : List String := s.parameters.take (s.parameters.length - s.defaults)

def lackMessage (s : Signature) (missing : List String) : String :=
  s.call ++ "() missing " ++ toString missing.length ++ " required positional argument" ++
    (if missing.length = 1 then "" else "s") ++ ": " ++ enumerated missing

def excessMessage (s : Signature) (given : Nat) : String :=
  let most := s.parameters.length + s.ahead
  let all := given + s.ahead
  let taken := if s.defaults = 0 then toString most
    else "from " ++ toString (most - s.defaults) ++ " to " ++ toString most
  s.call ++ "() takes " ++ taken ++ " positional argument" ++
    (if most = 1 ∧ s.defaults = 0 then "" else "s") ++ " but " ++ toString all ++
    (if all = 1 then " was given" else " were given")

/-- Goes through only if a call takes as many values as are given. -/
def check (s : Signature) (given : Nat) : Except Failure Unit :=
  if given < s.needed.length then .error (.arguments (s.lackMessage (s.needed.drop given)))
  else if s.parameters.length < given then .error (.arguments (s.excessMessage given))
  else .ok ()

def repeated (s : Signature) (parameter : String) : Failure :=
  .arguments (s.call ++ "() got multiple values for argument " ++ quotedName parameter)

def unexpected (s : Signature) (parameter : String) : Failure :=
  .arguments (s.call ++ "() got an unexpected keyword argument " ++ quotedName parameter)

end Signature
end WalletTrust
