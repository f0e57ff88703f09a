import WalletTrust.Address
import WalletTrust.Record
import WalletTrust.Score
import WalletTrust.Value.Items

/-!
# Registries

A registry belongs to an administrator, may point to the contract that succeeds it, and holds one
record for each wallet that was ever given a status.
-/

namespace WalletTrust

structure Registry where
  admin : String
  next : String := ""
  records : List (String × Record) := []
  deriving Repr, Inhabited

namespace Registry

/-- The records with one of them written: in its place if the wallet has one, else at the end. -/
def write (wallet : String) (record : Record) : List (String × Record) → List (String × Record)
  | [] => [(wallet, record)]
  | (w, r) :: rest => if w = wallet then (w, record) :: rest else (w, r) :: write wallet record rest

def find? (wallet : String) : List (String × Record) → Option Record
  | [] => none
  | (w, r) :: rest => if w = wallet then some r else find? wallet rest

theorem find?_write (wallet other : String) (record : Record) (records : List (String × Record)) :
    find? other (write wallet record records) =
      if wallet = other then some record else find? other records := by
  induction records with
  | nil => simp [write, find?]
  | cons entry rest ih =>
    obtain ⟨w, r⟩ := entry
    by_cases hw : w = wallet
    · subst hw
      by_cases h : w = other <;> simp [write, find?, h]
    · by_cases ho : w = other
      · subst ho
        simp [write, find?, hw, Ne.symm hw]
      · simp [write, find?, hw, ho, ih]

def badAdmin (admin : Value) : Failure := .invalidAddress admin (.text "Invalid admin address")

def create (admin : Value) : Except Failure Registry :=
  match Address.ofValue? admin with
  | some admin => .ok { admin }
  | none => .error (badAdmin admin)

def size (r : Registry) : Nat := r.records.length

/-- Says of a wallet whether its address is malformed, unseen, or registered. -/
def lookup (r : Registry) (wallet : Value) : Lookup :=
  match Address.ofValue? wallet with
  | none => ⟨.invalidAddress, {}⟩
  | some wallet => match find? wallet r.records with
    | none => ⟨.notFound, {}⟩
    | some record => ⟨.ok, record⟩

/-- The record of a wallet, which is the default one if the wallet is malformed or unseen. -/
def recordOf (r : Registry) (wallet : Value) : Record := (r.lookup wallet).record

/-- The records of several wallets, each once, in the order of the first request for it. -/
def recordsOf (r : Registry) (wallets : List Value) : Except Failure (List (Value × Record)) :=
  match Value.unkeyableIn? wallets with
  | some kind => .error (.noKey kind)
  | none => .ok ((Value.distinct wallets).map fun wallet => (wallet, r.recordOf wallet))

/-- The records of the wallets that are the items of a value. -/
def recordsIn (r : Registry) (wallets : Value) : Except Failure (List (Value × Record)) :=
  wallets.items >>= r.recordsOf

def contains (r : Registry) (wallet : Value) : Except Failure Bool :=
  match wallet.unkeyable? with
  | some kind => .error (.noKey kind)
  | none => .ok (r.records.any fun (w, _) => (Value.text w).same wallet)

def isAdmin (r : Registry) (address : Value) : Bool := address.same (.text r.admin)

/-- The status of a wallet, which is unknown as long as the wallet is unseen. -/
def statusOf (r : Registry) (wallet : String) : Value :=
  match find? wallet r.records with
  | some record => record.status
  | none => .status .unknown

end Registry
end WalletTrust
