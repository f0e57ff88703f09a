import WalletTrust.Failure
import WalletTrust.Text.Blank
import WalletTrust.Text.Letter

/-!
# Statuses read from values

A status is read from itself, from its name in any case with blanks around it, or from its code.
Where a status is kept without being read, only a status has a name.
-/

namespace WalletTrust.Status

def ofCode (v : Value) : Except Failure Status :=
  match all.find? fun s => (Value.int s.code).same v with
  | some s => .ok s
  | none => .error (.notStatus v)

def normalized (s : String) : String :=
  String.ofList ((Text.trimBy Text.isBlank s.toList).flatMap Text.upperAscii)

def ofValue (v : Value) : Except Failure Status :=
  match v with
  | .status s => .ok s
  | .int _ => ofCode v
  | .text s => match ofName? (normalized s) with
    | some status => .ok status
    | none => .error (.notStatus v)
  | _ => .error (.notStatus v)

/-- The name of a status. Other values have none, even if they spell one. -/
def nameOf : Value → Except Failure Value
  | .status s => .ok (.text s.name)
  | v => .error (.noAttribute v.kind (.text "value"))

end WalletTrust.Status
