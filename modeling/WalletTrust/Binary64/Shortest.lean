import WalletTrust.Binary64.Basic

/-!
# Shortest decimal digits of a double

The fewest significant digits that read back as the same number, and of those the nearest: on the
decimal grid of `n` digits only the two neighbours of the number can lie in its rounding interval,
so the first `n` with a hit decides.
-/

namespace WalletTrust.Binary64

/-- Compares `a * 2 ^ e` with `b * 10 ^ k` on a common denominator. -/
def comparePowers (a : Nat) (e : Int) (b : Nat) (k : Int) : Ordering :=
  compare (a * twoTo e * tenTo (-k)) (b * tenTo k * twoTo (-e))

/-- The rounding interval of `m * 2 ^ e`, in units of `2 ^ (e - 2)`: below the smallest significand
of a binade the spacing halves. The ends belong to it when the significand is even. -/
structure Interval where
  low : Nat
  middle : Nat
  high : Nat
  closed : Bool
  unit : Int

def interval (m : Nat) (e : Int) : Interval :=
  { low := 4 * m - (if m = binade ∧ -1074 < e then 1 else 2)
    middle := 4 * m
    high := 4 * m + 2
    closed := m % 2 == 0
    unit := e - 2 }

def Interval.contains (i : Interval) (d : Nat) (k : Int) : Bool :=
  match comparePowers i.low i.unit d k, comparePowers i.high i.unit d k with
  | .lt, .gt => true
  | .eq, _ => i.closed
  | _, .eq => i.closed
  | _, _ => false

/-- The greatest multiple of `10 ^ k` that is at most the number. -/
def floorOnGrid (i : Interval) (k : Int) : Nat :=
  (i.middle * twoTo i.unit * tenTo (-k)) / (tenTo k * twoTo (-i.unit))

/-- Of `d` and `d + 1`, which both lie in the interval, the nearer; the even one of two equally
near. -/
def nearer (i : Interval) (d : Nat) (k : Int) : Nat :=
  match comparePowers (2 * i.middle) i.unit (2 * d + 1) k with
  | .lt => d
  | .gt => d + 1
  | .eq => if d % 2 == 0 then d else d + 1

/-- The grid point of `10 ^ k` to print, if the interval holds one. -/
def gridPoint? (i : Interval) (k : Int) : Option Nat :=
  let d := floorOnGrid i k
  match i.contains d k, i.contains (d + 1) k with
  | true, true => some (nearer i d k)
  | true, false => some d
  | false, true => some (d + 1)
  | false, false => none

/-- Tries the grids `10 ^ k`, `10 ^ (k - 1)`, … in turn. -/
def firstGrid (i : Interval) : Nat → Int → Nat × Int
  | 0, k => (floorOnGrid i k, k)
  | n + 1, k => match gridPoint? i k with
    | some d => (d, k)
    | none => firstGrid i n (k - 1)

/-- The least `p` from a starting guess on with `m * 2 ^ e < 10 ^ p`. -/
def decimalMagnitude (m : Nat) (e : Int) : Nat → Int → Int
  | 0, p => p
  | n + 1, p => if comparePowers m e 1 p = .lt then p else decimalMagnitude m e n (p + 1)

def dropZeros : Nat → Nat → Int → Nat × Int
  | 0, d, k => (d, k)
  | n + 1, d, k => if d ≠ 0 ∧ d % 10 = 0 then dropZeros n (d / 10) (k + 1) else (d, k)

/-- Digits and power of ten of a number other than zero: no shorter decimal reads back as it, and
no decimal of that length is nearer. -/
def shortest (m : Nat) (e : Int) : Nat × Int :=
  let guess := ((m.log2 : Int) + e) * 30103 / 100000
  let p := decimalMagnitude m e 4 guess
  let (d, k) := firstGrid (interval m e) 17 (p - 1)
  dropZeros 20 d k

end WalletTrust.Binary64
