import WalletTrust.Failure

/-!
# Wallet addresses

An address is a text of exactly 60 capital letters of ASCII.
-/

namespace WalletTrust.Address

def length : Nat := 60

def isLetter (c : Char) : Bool := 'A' ≤ c && c ≤ 'Z'

def isValid (s : String) : Bool := s.toList.length == length && s.toList.all isLetter

def ofValue? : Value → Option String
  | .text s => if isValid s then some s else none
  | _ => none

theorem ofValue?_eq_some_iff {v : Value} {s : String} :
    ofValue? v = some s ↔ v = .text s ∧ isValid s = true := by
  cases v <;> simp [ofValue?]
  rename_i t
  constructor
  · rintro ⟨h, rfl⟩; exact ⟨rfl, h⟩
  · rintro ⟨rfl, h⟩; exact ⟨h, rfl⟩

/-- The first `keep` code points; a negative number of them leaves that many off the end. -/
def front (keep : Int) (points : Text.Points) : Text.Points :=
  if 0 ≤ keep then points.take keep.toNat else points.take (points.length - (-keep).toNat)

/-- A string in short: one of more than `keep` code points is cut and ends in dots. -/
def shorten (keep : Int) (points : Text.Points) : Text.Points :=
  if (points.length : Int) ≤ keep then points else front keep points ++ [0x2e, 0x2e, 0x2e]

/-- The number of characters that a log shows of an address. -/
def shown : Nat := 16

def abbreviate (s : String) : Value := .ofPoints (shorten shown (Text.toPoints s))

/-- A caller in short. Values that are no text may fail to have a length, or to be cut. -/
def abbreviateCaller (caller : Value) : Except Failure Value :=
  if caller.isEmpty then .ok (.text "") else
  match caller with
  | .text s => .ok (abbreviate s)
  | .broken points => .ok (.ofPoints (shorten shown points))
  | .bytes data => if data.length ≤ shown then .ok caller else .error (.noAppend "bytes")
  | .list items => if items.length ≤ shown then .ok caller else .error (.noAppend "list")
  | .tuple items => if items.length ≤ shown then .ok caller else .error (.noAppend "tuple")
  | .map entries => if entries.length ≤ shown then .ok caller else .error (.noKey "slice")
  | .status _ => .ok caller
  | v => .error (.noLength v.kind)

end WalletTrust.Address
