import WalletTrust.Binary64.Shortest

/-!
# Written forms of a double

The plain form is positional from `10 ^ -4` up to `10 ^ 16` and scientific outside of it; the
exposition form, which metrics use, turns large positive numbers to scientific much sooner.
-/

namespace WalletTrust.Binary64

/-- An exponent has at least two digits. -/
def exponentText (n : Nat) : String := if n < 10 then "0" ++ toString n else toString n

/-- `digits * 10 ^ power`, laid out around the decimal point. -/
def layout (digits : List Char) (power : Int) : String :=
  let point : Int := digits.length + power
  if -4 < point ∧ point ≤ 0 then
    "0." ++ String.ofList (List.replicate (-point).toNat '0' ++ digits)
  else if 0 < point ∧ point ≤ 16 then
    if (digits.length : Int) ≤ point then
      String.ofList (digits ++ List.replicate (point - digits.length).toNat '0') ++ ".0"
    else
      String.ofList (digits.take point.toNat) ++ "." ++ String.ofList (digits.drop point.toNat)
  else
    let mantissa := match digits with
      | [d] => String.ofList [d]
      | d :: rest => String.ofList (d :: '.' :: rest)
      | [] => ""
    let e := point - 1
    mantissa ++ "e" ++ (if e < 0 then "-" else "+") ++ exponentText e.natAbs

/-- The plain form: the fewest digits that read back, with a point or an exponent. -/
def plain : Binary64 → String
  | .nan => "nan"
  | .infinite negative => if negative then "-inf" else "inf"
  | .finite negative m e =>
    let sign := if negative then "-" else ""
    if m = 0 then sign ++ "0.0"
    else
      let (d, k) := shortest m e
      sign ++ layout (Nat.toDigits 10 d) k

def trimFraction (s : List Char) : List Char :=
  (s.reverse.dropWhile fun c => c == '0' || c == '.').reverse

def pointIndex? (s : List Char) : Option Nat := s.findIdx? (· == '.')

/-- The exposition form: as the plain form, but a positive number of more than six digits before
the point is a mantissa and an exponent. -/
def exposition (x : Binary64) : String :=
  match x with
  | .nan => "NaN"
  | .infinite negative => if negative then "-Inf" else "+Inf"
  | .finite negative _ _ =>
    let s := x.plain.toList
    match negative, pointIndex? s with
    | false, some point =>
      if 6 < point then
        let digits := (s.take point).drop 1 ++ s.drop (point + 1)
        let mantissa := trimFraction (s.take 1 ++ '.' :: digits)
        String.ofList mantissa ++ "e+" ++ exponentText (point - 1)
      else x.plain
    | _, _ => x.plain

end WalletTrust.Binary64
