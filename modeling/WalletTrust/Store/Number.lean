import WalletTrust.Binary64.Extended
import WalletTrust.Binary64.Text
import WalletTrust.Value.Integer

/-!
# Numbers as a database reads and writes them

A database reads a decimal and writes a double with calculations of 64-bit precision, so that
neither is always the nearest one. A number is written in fifteen digits.
-/

namespace WalletTrust.Store.Number

/-- A significand from here on takes no more digits. -/
def fullSignificand : Nat := 922337203685477579

/-- Takes up the digits of an integer; digits that are not taken raise the power of ten. -/
def takeWhole (s : Nat) : List Nat → Nat × Nat
  | [] => (s, 0)
  | d :: rest => if fullSignificand ≤ s then (s, rest.length + 1) else takeWhole (10 * s + d) rest

/-- Takes up the digits of a fraction, each of which lowers the power of ten; digits that are not
taken are without effect. -/
def takeFraction (s : Nat) : List Nat → Nat × Nat
  | [] => (s, 0)
  | d :: rest =>
    if fullSignificand ≤ s then (s, 0)
    else
      let (s, taken) := takeFraction (10 * s + d) rest
      (s, taken + 1)

/-- The size of an exponent; long ones are cut. -/
def exponentSize (digits : List Nat) : Nat :=
  digits.foldl (fun e d => if e < 10000 then 10 * e + d else 10000) 0

/-- Moves a power of ten into the significand as long as it takes zeros. -/
def raiseWhole : Nat → Nat → Nat × Nat
  | s, 0 => (s, 0)
  | s, e + 1 => if fullSignificand < s then (s, e + 1) else raiseWhole (10 * s) e

/-- Moves a negative power of ten into the significand as long as it ends in zeros. -/
def lowerWhole : Nat → Nat → Nat × Nat
  | s, 0 => (s, 0)
  | s, e + 1 => if s % 10 = 0 then lowerWhole (s / 10) e else (s, e + 1)

/-- The powers of ten that are applied in two steps start above this one, the last that doubles
have. -/
def lastPower : Nat := 308

/-- Powers of ten from here on lead to zero or infinity. -/
def powerEnd : Nat := 342

/-- The size of a finite double times or divided by another. -/
def scaleDouble (negative down : Bool) (x y : Binary64) : Binary64 :=
  match x, y with
  | .finite _ m₁ e₁, .finite _ m₂ e₂ =>
    let (num, den, e) := if down then (m₁, m₂, e₁ - e₂) else (m₁ * m₂, 1, e₁ + e₂)
    if 0 ≤ e then .ofRatio negative (num * Binary64.twoTo e) den
    else .ofRatio negative num (den * Binary64.twoTo (-e))
  | x, _ => x

/-- `s * 10 ^ e`, or `s / 10 ^ e` if `down` holds. -/
def scaled (negative down : Bool) (s e : Nat) : Binary64 :=
  let apply := fun (n : Nat) =>
    let power := Extended.tenPower n
    let scaled := if down then (Extended.ofNat s).div power else (Extended.ofNat s).mul power
    scaled.toBinary64 negative
  if e = 0 then .ofRatio negative s 1
  else if e < lastPower then apply e
  else if e < powerEnd then
    scaleDouble negative down (apply (e - lastPower)) (.ofDecimal false 1 lastPower)
  else if down then .zero negative
  else .infinite negative

/-- The double that a decimal is read as: its digits before and after the point and its exponent. -/
def read (negative : Bool) (whole fraction : List Nat) (exponentNegative : Bool)
    (exponent : List Nat) : Binary64 :=
  let (s, raised) := takeWhole 0 whole
  let (s, lowered) := takeFraction s fraction
  let size : Int := exponentSize exponent
  let power : Int := (if exponentNegative then -size else size) + raised - lowered
  if s = 0 then .zero negative
  else if 0 ≤ power then
    let (s, e) := raiseWhole s power.toNat
    scaled negative false s e
  else
    let (s, e) := lowerWhole s (-power).toNat
    scaled negative true s e

/-- Lifts a scale by a step as long as the number reaches the next one, and counts the powers of
ten. -/
def liftScale (x step : Extended) (power : Nat) : Nat → Extended → Nat → Extended × Nat
  | 0, scale, e => (scale, e)
  | n + 1, scale, e =>
    if (step.mul scale).le x then liftScale x step power n (scale.mul step) (e + power)
    else (scale, e)

/-- Multiplies a number by a step as long as it is below a bound. -/
def liftNumber (bound step : Extended) (power : Int) : Nat → Extended → Int → Extended × Int
  | 0, x, e => (x, e)
  | n + 1, x, e =>
    if x.lt bound then liftNumber bound step power n (x.mul step) (e - power) else (x, e)

def decimal (digit : Nat) (power : Int) : Extended := .ofBinary64 (.ofDecimal false digit power)

/-- A number brought between one and ten, and the power of ten that was taken out. -/
def normalized (x : Extended) : Extended × Int :=
  let (scale, e) := liftScale x (decimal 1 100) 100 4 (.ofNat 1) 0
  let (scale, e) := liftScale x (decimal 1 10) 10 10 scale e
  let (scale, e) := liftScale x (decimal 1 1) 1 10 scale e
  let (x, e) := liftNumber (decimal 1 (-8)) (decimal 1 8) 8 50 (x.div scale) e
  liftNumber (decimal 1 0) (decimal 1 1) 1 10 x e

/-- Half a unit of the fifteenth digit: the product of two doubles as a double. -/
def halfUnit : Extended :=
  .ofBinary64 (scaleDouble false false (.ofDecimal false 5 (-5)) (.ofDecimal false 1 (-10)))

/-- The leading digits of a number below ten, one after the other. -/
def digitsOf : Nat → Extended → List Char
  | 0, _ => []
  | n + 1, x => Nat.digitChar x.floor :: digitsOf n ((x.sub (.ofNat x.floor)).mul (decimal 1 1))

/-- The fifteen leading digits of a positive number and the power of ten of the first of them. -/
def leadingDigits (m : Nat) (e : Int) : List Char × Int :=
  let (x, first) := normalized (.ofScaled m e)
  let x := x.add halfUnit
  if (decimal 1 1).le x then (digitsOf 15 (x.mul (decimal 1 (-1))), first + 1)
  else (digitsOf 15 x, first)

/-- Digits of a fraction without the zeros at its end, of which one stays if there are no others. -/
def fractionText (digits : List Char) : String :=
  match (digits.reverse.dropWhile (· == '0')).reverse with
  | [] => "0"
  | kept => String.ofList kept

/-- A double in fifteen significant digits: positional from `10 ^ -4` up to `10 ^ 15`, else with an
exponent. -/
def text : Binary64 → String
  | .nan => ""
  | .infinite negative => if negative then "-Inf" else "Inf"
  | .finite negative m e =>
    if m = 0 then "0.0"
    else
      let (digits, first) := leadingDigits m e
      let sign := if negative then "-" else ""
      if first < -4 ∨ 14 < first then
        sign ++ String.ofList (digits.take 1) ++ "." ++ fractionText (digits.drop 1) ++ "e" ++
          (if first < 0 then "-" else "+") ++ Binary64.exponentText first.natAbs
      else if first < 0 then
        sign ++ "0." ++ fractionText (List.replicate (-first - 1).toNat '0' ++ digits)
      else
        let whole := first.toNat + 1
        sign ++ String.ofList (digits.take whole) ++ "." ++ fractionText (digits.drop whole)

end WalletTrust.Store.Number
