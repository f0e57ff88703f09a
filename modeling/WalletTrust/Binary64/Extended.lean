import WalletTrust.Binary64.Basic

/-!
# Numbers of 64-bit precision

Positive numbers with a significand of 64 bits, in which some calculations on doubles are carried
out before their result is rounded to a double. Each operation is exact up to one rounding to the
nearest number, ties to an even significand; exponents have no bounds.
-/

namespace WalletTrust

/-- `significand * 2 ^ exponent`, where `2 ^ 63 ≤ significand < 2 ^ 64` unless the number is zero.
-/
structure Extended where
  significand : Nat
  exponent : Int
  deriving DecidableEq, Repr, Inhabited

namespace Extended

open Binary64 (twoTo nearest scale)

/-- The least significand, `2 ^ 63`. -/
abbrev half : Nat := 0x8000000000000000

def zero : Extended := ⟨0, 0⟩

def ofRatio (num den : Nat) : Extended :=
  if num = 0 then zero else
  let low : Int := (num.log2 : Int) - den.log2 - 64
  let (n, d) := scale num den low
  let e := if d * (2 * half) ≤ n then low + 1 else low
  let (n, d) := scale num den e
  let m := nearest n d
  if m = 2 * half then ⟨half, e + 1⟩ else ⟨m, e⟩

def ofScaled (n : Nat) (e : Int) : Extended :=
  if 0 ≤ e then ofRatio (n * twoTo e) 1 else ofRatio n (twoTo (-e))

def ofNat (n : Nat) : Extended := ofScaled n 0

/-- The size of a double, which is kept exactly; what is not finite counts as zero. -/
def ofBinary64 : Binary64 → Extended
  | .finite _ m e => ofScaled m e
  | _ => zero

def toBinary64 (negative : Bool) (x : Extended) : Binary64 :=
  if 0 ≤ x.exponent then .ofRatio negative (x.significand * twoTo x.exponent) 1
  else .ofRatio negative x.significand (twoTo (-x.exponent))

def mul (x y : Extended) : Extended :=
  ofScaled (x.significand * y.significand) (x.exponent + y.exponent)

def div (x y : Extended) : Extended :=
  let e := x.exponent - y.exponent
  if 0 ≤ e then ofRatio (x.significand * twoTo e) y.significand
  else ofRatio x.significand (y.significand * twoTo (-e))

/-- The size of a number as a multiple of `2 ^ e`, for `e` at most its exponent. -/
def units (x : Extended) (e : Int) : Nat := x.significand * twoTo (x.exponent - e)

def add (x y : Extended) : Extended :=
  let e := min x.exponent y.exponent
  ofScaled (x.units e + y.units e) e

/-- The difference, which is zero if the second number is greater. -/
def sub (x y : Extended) : Extended :=
  let e := min x.exponent y.exponent
  ofScaled (x.units e - y.units e) e

def le (x y : Extended) : Bool :=
  let e := min x.exponent y.exponent
  x.units e ≤ y.units e

def lt (x y : Extended) : Bool := !(y.le x)

def floor (x : Extended) : Nat :=
  if 0 ≤ x.exponent then x.significand * twoTo x.exponent else x.significand / twoTo (-x.exponent)

/-- `r * x ^ n` by squaring. -/
def mulPower (r x : Extended) (n : Nat) : Extended :=
  let r := if n % 2 = 1 then r.mul x else r
  if n / 2 = 0 then r else mulPower r (x.mul x) (n / 2)
termination_by n
decreasing_by omega

def tenPower (n : Nat) : Extended := mulPower (ofNat 1) (ofNat 10) n

example : tenPower 3 = ofNat 1000 := by decide +kernel

end Extended
end WalletTrust
