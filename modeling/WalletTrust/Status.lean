/-!
# Trust statuses

`unknown` doubles as the status of a wallet that was never registered.
-/

namespace WalletTrust

inductive Status where
  | unknown
  | active
  | blocked
  | review
  deriving DecidableEq, Repr, Inhabited

namespace Status

def all : List Status := [.unknown, .active, .blocked, .review]

def name : Status → String
  | .unknown => "UNKNOWN"
  | .active => "ACTIVE"
  | .blocked => "BLOCKED"
  | .review => "REVIEW"

/-- The ordinal that a status has on chain. -/
def code : Status → Nat
  | .unknown => 0
  | .active => 1
  | .blocked => 2
  | .review => 3

def ofName? (s : String) : Option Status := all.find? fun status => status.name == s

theorem ofName?_name (s : Status) : ofName? s.name = some s := by cases s <;> decide +kernel

end Status
end WalletTrust
