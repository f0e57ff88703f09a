import WalletTrust.Failure
import WalletTrust.Text.Blank
import WalletTrust.Text.Digit

/-!
# Values read as integers

A written integer has blanks around it, a sign, and digits of any script with single underscores
between them.
-/

namespace WalletTrust

namespace Text

/-- The digits of a run in which single underscores may stand between two digits. `digitBefore` says
whether a digit stands before the run. -/
def separated (digitBefore : Bool) : List Nat → Option (List Nat)
  | [] => if digitBefore then some [] else none
  | p :: rest => match digitBefore, p with
    | true, 0x5f => separated false rest
    | _, _ => (digitValue? p).bind fun d => (separated true rest).map (d :: ·)

def ofDigits (digits : List Nat) : Nat := digits.foldl (fun n d => 10 * n + d) 0

/-- Whether a code point may stand in a run of digits. -/
def inDigitRun (point : Nat) : Bool := point == 0x5f || (digitValue? point).isSome

def splitSign : List Nat → Bool × List Nat
  | 0x2d :: rest => (true, rest)
  | 0x2b :: rest => (false, rest)
  | points => (false, points)

inductive IntegerFault where
  | malformed
  | tooLong (count : Nat)

def integerOf (points : List Nat) : Except IntegerFault Int :=
  let (negative, unsigned) := splitSign points
  match separated false (unsigned.takeWhile inDigitRun) with
  | none => .error .malformed
  | some digits =>
    if digitLimit < digits.length then .error (.tooLong digits.length)
    else if unsigned.dropWhile inDigitRun ≠ [] then .error .malformed
    else .ok (if negative then -(ofDigits digits : Int) else ofDigits digits)

def isAsciiBlank (byte : Nat) : Bool := (9 ≤ byte && byte ≤ 13) || byte == 0x20

end Text

namespace Value

/-- Reads what a value spells, and fails in the name of that value. -/
def spelledInteger (v : Value) (blank : Nat → Bool) (points : List Nat) : Except Failure Int :=
  match Text.integerOf (Text.trimBy blank points) with
  | .ok n => .ok n
  | .error .malformed => .error (.notInteger v)
  | .error (.tooLong count) => .error (.tooManyDigits count)

/-- The integer that a value stands for: a double is cut toward zero, strings and bytes are read. -/
def toInteger (v : Value) : Except Failure Int :=
  match v with
  | .bool b => .ok (if b then 1 else 0)
  | .int n => .ok n
  | .float .nan => .error .integerOfNan
  | .float (.infinite _) => .error .integerOfInfinity
  | .float (.finite negative m e) => .ok (Binary64.truncate negative m e)
  | .text s => v.spelledInteger Text.isNumberBlank (Text.toPoints s)
  | .status s => v.spelledInteger Text.isNumberBlank (Text.toPoints s.name)
  | .broken points => v.spelledInteger Text.isNumberBlank points
  | .bytes data => v.spelledInteger Text.isAsciiBlank (data.map UInt8.toNat)
  | _ => .error (.noInteger v.kind)

end Value
end WalletTrust
