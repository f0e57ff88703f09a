import WalletTrust.Arguments

/-!
# Failures of the domain by name

A failure of the domain is made from the name of its class and the values that led to it. Values
that are too few or too many lead to another failure.
-/

namespace WalletTrust

inductive FailureClass where
  | general
  | invalidAddress
  | invalidStatus
  | unauthorized
  deriving DecidableEq, Repr

namespace FailureClass

def all : List FailureClass := [.general, .invalidAddress, .invalidStatus, .unauthorized]

def name : FailureClass → String
  | .general => "TurboAuthError"
  | .invalidAddress => "InvalidAddressError"
  | .invalidStatus => "InvalidStatusError"
  | .unauthorized => "UnauthorizedError"

def ofName? (s : String) : Option FailureClass := all.find? (·.name == s)

def aboutValue : FailureClass → Bool
  | .invalidAddress => true
  | .invalidStatus => true
  | _ => false

def signature (c : FailureClass) : Signature :=
  let call := c.name ++ ".__init__"
  match c with
  | .general => { call, parameters := ["message", "code"], defaults := 1 }
  | .invalidAddress => { call, parameters := ["address", "message"], defaults := 1 }
  | .invalidStatus => { call, parameters := ["value"] }
  | .unauthorized => { call, parameters := ["caller", "operation"] }

def addressMessage : Value := .text "Invalid wallet address"

/-- A failure, if the value that its message shows can be written. -/
def shownBy (value : Value) (f : Failure) : Except Failure Failure :=
  if value.isWritable then .ok f else .error .integerTooLong

def make (c : FailureClass) (args : List Value) : Except Failure Failure := do
  c.signature.check args.length
  let first := args[0]?.getD .null
  match c with
  | .general => .ok (.general first (match args[1]?.getD .null with
      | .null => Failure.generalCode
      | code => code))
  | .invalidAddress => .ok (.invalidAddress first (args[1]?.getD addressMessage))
  | .invalidStatus => shownBy first (.invalidStatus first)
  | .unauthorized =>
    let operation := args[1]?.getD .null
    shownBy operation (.unauthorized first operation)

/-- The failure that making and raising a failure leads to. -/
def raise (c : FailureClass) (args : List Value) : Failure :=
  match c.make args with
  | .ok f => f
  | .error f => f

end FailureClass

def Failure.class? : Failure → Option FailureClass
  | .general _ _ => some .general
  | .invalidAddress _ _ => some .invalidAddress
  | .invalidStatus _ => some .invalidStatus
  | .unauthorized _ _ => some .unauthorized
  | _ => none

end WalletTrust
