/-!
# Binary floating-point numbers as exact data

A number of 53-bit precision is a sign, a significand and a power of two, so that rounding, sums and
comparisons are statements about `Nat` and `Int`. Rounding goes to the nearest number, ties to an
even significand.
-/

namespace WalletTrust

/-- A double: `finite negative m e` is `m * 2 ^ e` with a sign, where `m < 2 ^ 53`, `-1074 ≤ e`, and
`2 ^ 52 ≤ m` unless `e = -1074`. -/
inductive Binary64 where
  | nan
  | infinite (negative : Bool)
  | finite (negative : Bool) (significand : Nat) (exponent : Int)
  deriving DecidableEq, Repr, Inhabited

namespace Binary64

/-- A power of two; a negative exponent counts as zero. -/
def twoTo (e : Int) : Nat := Nat.pow 2 e.toNat

/-- A power of ten; a negative exponent counts as zero. -/
def tenTo (k : Int) : Nat := Nat.pow 10 k.toNat

/-- The least significand of a full binade, `2 ^ 52`. -/
abbrev binade : Nat := 0x10000000000000

/-- A zero, which keeps a sign. -/
def zero (negative : Bool) : Binary64 := .finite negative 0 (-1074)

/-- The quotient to the nearest integer; a half goes to the even neighbour. -/
def nearest (num den : Nat) : Nat :=
  let quotient := num / den
  let twice := 2 * (num % den)
  if twice < den then quotient
  else if den < twice then quotient + 1
  else quotient + quotient % 2

/-- `num / den / 2 ^ e`, as a fraction. -/
def scale (num den : Nat) (e : Int) : Nat × Nat :=
  if 0 ≤ e then (num, den * twoTo e) else (num * twoTo (-e), den)

/-- A rounded significand back in range: one that reached `2 ^ 53` moves up a binade, and past the
largest binade the number is infinite. -/
def pack (negative : Bool) (m : Nat) (e : Int) : Binary64 :=
  let (m, e) := if m = 2 * binade then (binade, e + 1) else (m, e)
  if 971 < e then .infinite negative else .finite negative m e

def ofRatio (negative : Bool) (num den : Nat) : Binary64 :=
  if num = 0 then zero negative else
  let low : Int := max ((num.log2 : Int) - den.log2 - 53) (-1074)
  let (n, d) := scale num den low
  let e := if d * (2 * binade) ≤ n then low + 1 else low
  let (n, d) := scale num den e
  pack negative (nearest n d) e

def ofInt (n : Int) : Binary64 := ofRatio (n < 0) n.natAbs 1

/-- The double nearest to `digits * 10 ^ power`. Powers far outside the range are decided without
computing them. -/
def ofDecimal (negative : Bool) (digits : Nat) (power : Int) : Binary64 :=
  let length : Int := (Nat.toDigits 10 digits).length
  if digits = 0 then zero negative
  else if 400 < length + power then .infinite negative
  else if length + power < -400 then zero negative
  else if 0 ≤ power then ofRatio negative (digits * tenTo power) 1
  else ofRatio negative digits (tenTo (-power))

/-- The number as a multiple of `2 ^ e`, for `e` at most its exponent. -/
def unitsOf (negative : Bool) (m : Nat) (exponent e : Int) : Int :=
  let size : Int := m * twoTo (exponent - e)
  if negative then -size else size

/-- Order of two finite numbers, decided on a common power of two. -/
def finiteLe (n₁ : Bool) (m₁ : Nat) (e₁ : Int) (n₂ : Bool) (m₂ : Nat) (e₂ : Int) : Bool :=
  decide (unitsOf n₁ m₁ e₁ (min e₁ e₂) ≤ unitsOf n₂ m₂ e₂ (min e₁ e₂))

/-- At most; false as soon as one side is no number. -/
def le : Binary64 → Binary64 → Bool
  | .nan, _ => false
  | _, .nan => false
  | .infinite true, _ => true
  | _, .infinite false => true
  | .infinite false, _ => false
  | _, .infinite true => false
  | .finite n₁ m₁ e₁, .finite n₂ m₂ e₂ => finiteLe n₁ m₁ e₁ n₂ m₂ e₂

/-- Equal as numbers: zeros of both signs agree, and `nan` differs from everything. -/
def same (x y : Binary64) : Bool := x.le y && y.le x

/-- The exact sum, rounded once. -/
def add : Binary64 → Binary64 → Binary64
  | .nan, _ => .nan
  | _, .nan => .nan
  | .infinite a, .infinite b => if a = b then .infinite a else .nan
  | .infinite a, _ => .infinite a
  | _, .infinite b => .infinite b
  | .finite n₁ m₁ e₁, .finite n₂ m₂ e₂ =>
    let e := min e₁ e₂
    let sum := unitsOf n₁ m₁ e₁ e + unitsOf n₂ m₂ e₂ e
    if sum = 0 then zero (n₁ && n₂)
    else if 0 ≤ e then ofRatio (sum < 0) (sum.natAbs * twoTo e) 1
    else ofRatio (sum < 0) sum.natAbs (twoTo (-e))

/-- The integer part of a finite number, toward zero. -/
def truncate (negative : Bool) (m : Nat) (e : Int) : Int :=
  let size : Nat := if 0 ≤ e then m * twoTo e else m / twoTo (-e)
  if negative then -(size : Int) else size

def isWhole (m : Nat) (e : Int) : Bool := decide (0 ≤ e) || m % twoTo (-e) == 0

def toInt? : Binary64 → Option Int
  | .finite negative m e => if isWhole m e then some (truncate negative m e) else none
  | _ => none

def isFinite : Binary64 → Bool
  | .finite _ _ _ => true
  | _ => false

end Binary64
end WalletTrust
