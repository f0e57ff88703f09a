import WalletTrust.Value.Basic

/-!
# Trust scores

A score is an integer from 0 to 100. Truth values are no scores, nor are whole doubles.
-/

namespace WalletTrust.Score

abbrev lowest : Int := 0

abbrev highest : Int := 100

def inRange (n : Int) : Bool := lowest ≤ n && n ≤ highest

def isValid : Value → Bool
  | .int n => inRange n
  | _ => false

theorem isValid_iff {v : Value} : isValid v = true ↔ ∃ n : Int, v = .int n ∧ 0 ≤ n ∧ n ≤ 100 := by
  cases v <;> simp [isValid, inRange]

end WalletTrust.Score
