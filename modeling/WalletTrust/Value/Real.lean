import WalletTrust.Value.Integer

/-!
# Values read as real numbers

A written real number has blanks around it and is a decimal with an optional exponent, or one of the
words for infinity and for no number.
-/

namespace WalletTrust

namespace Text

def lowerAscii (point : Nat) : Nat := if 0x41 ≤ point ∧ point ≤ 0x5a then point + 32 else point

/-- The parts of a decimal: digits before and after the point, and what follows them. -/
structure Decimal where
  whole : List Nat
  fraction : List Nat
  rest : List Nat

/-- A run of digits, empty or with single underscores between its digits. -/
def optionalDigits (points : List Nat) : Option (List Nat × List Nat) :=
  let rest := points.dropWhile inDigitRun
  match points.takeWhile inDigitRun with
  | [] => some ([], rest)
  | run => (separated false run).map (·, rest)

def decimalOf (points : List Nat) : Option Decimal := do
  let (whole, rest) ← optionalDigits points
  match rest with
  | 0x2e :: rest =>
    let (fraction, rest) ← optionalDigits rest
    if whole.isEmpty && fraction.isEmpty then none else some ⟨whole, fraction, rest⟩
  | _ => if whole.isEmpty then none else some ⟨whole, [], rest⟩

/-- The exponent at the end of a number; without a mark it is zero. -/
def exponentOf : List Nat → Option Int
  | [] => some 0
  | mark :: rest =>
    if lowerAscii mark = 0x65 then
      let (negative, unsigned) := splitSign rest
      if unsigned.all inDigitRun then
        (separated false unsigned).map fun digits =>
          if negative then -(ofDigits digits : Int) else ofDigits digits
      else none
    else none

def realOf (points : List Nat) : Option Binary64 :=
  let (negative, unsigned) := splitSign points
  let word := String.ofList (unsigned.map fun p => Char.ofNat (lowerAscii p))
  if word = "inf" ∨ word = "infinity" then some (.infinite negative)
  else if word = "nan" then some .nan
  else do
    let decimal ← decimalOf unsigned
    let exponent ← exponentOf decimal.rest
    some (.ofDecimal negative (ofDigits (decimal.whole ++ decimal.fraction))
      (exponent - decimal.fraction.length))

end Text

namespace Value

/-- Reads what a value spells, and fails in the name of that value. -/
def spelledReal (v : Value) (blank : Nat → Bool) (points : List Nat) : Except Failure Binary64 :=
  match Text.realOf (Text.trimBy blank points) with
  | some x => .ok x
  | none => .error (.notReal v)

/-- The double nearest to an integer, which must not round to infinity. -/
def realOfInt (n : Int) : Except Failure Binary64 :=
  if (Binary64.ofInt n).isFinite then .ok (.ofInt n) else .error .realTooLarge

def toReal (v : Value) : Except Failure Binary64 :=
  match v with
  | .bool b => .ok (.ofInt (if b then 1 else 0))
  | .int n => realOfInt n
  | .float x => .ok x
  | .text s => v.spelledReal Text.isNumberBlank (Text.toPoints s)
  | .status s => v.spelledReal Text.isNumberBlank (Text.toPoints s.name)
  | .broken points => v.spelledReal Text.isNumberBlank points
  | .bytes data => v.spelledReal Text.isAsciiBlank (data.map UInt8.toNat)
  | _ => .error (.noReal v.kind)

/-- The double that a value adds to a sum: texts are not read here. -/
def summand (v : Value) : Except Failure Binary64 :=
  match v with
  | .bool b => .ok (.ofInt (if b then 1 else 0))
  | .int n => realOfInt n
  | .float x => .ok x
  | _ => .error (.noSum v.kind)

end Value
end WalletTrust
