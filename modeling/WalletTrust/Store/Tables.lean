import WalletTrust.Registry.Snapshot
import WalletTrust.Store.Cell

/-!
# Tables of a stored registry

One table has a row for each wallet, the other holds the properties of the registry under their
names. No two rows of a table have the same key. Rows stand in the order in which they were written.
-/

namespace WalletTrust.Store

structure Row where
  wallet : Cell
  status : Cell
  trustScore : Cell
  updatedAt : Cell
  deriving DecidableEq, Repr, Inhabited

def Row.isIntact (row : Row) : Bool :=
  row.wallet.isIntact && row.status.isIntact && row.trustScore.isIntact && row.updatedAt.isIntact

structure Tables where
  rows : List Row := []
  properties : List (Cell × Cell) := []
  deriving DecidableEq, Repr, Inhabited

/-- A cell of a column in which no value may be missing. -/
def required : Option Cell → Except Failure Cell
  | some c => .ok c
  | none => .error (.database .constraint)

/-- A row of the given values. All values are handed over before any is found missing. -/
def rowOf (wallet status score time : Value) : Except Failure Row := do
  let wallet ← Cell.ofValue wallet
  let status ← Cell.ofValue status
  let score ← Cell.ofValue score
  let time ← Cell.ofValue time
  let wallet ← required wallet
  let status ← required status
  let score ← required score
  let time ← required time
  .ok ⟨wallet.preferText, status.preferText, score.preferInteger, time.preferInteger⟩

def propertyOf (key value : Value) : Except Failure (Cell × Cell) := do
  let key ← Cell.ofValue key
  let value ← Cell.ofValue value
  let key ← required key
  let value ← required value
  .ok (key.preferText, value.preferText)

namespace Tables

def putRow (t : Tables) (row : Row) : Tables :=
  { t with rows := t.rows.filter (·.wallet ≠ row.wallet) ++ [row] }

def putProperty (t : Tables) (entry : Cell × Cell) : Tables :=
  { t with properties := t.properties.filter (·.1 ≠ entry.1) ++ [entry] }

def addRow (t : Tables) (row : Row) : Except Failure Tables :=
  if t.rows.any (·.wallet = row.wallet) then .error (.database .constraint)
  else .ok { t with rows := t.rows ++ [row] }

/-- The cell that a key is compared as, if a row can have it. -/
def keyOf (key : Value) : Except Failure (Option Cell) :=
  (Cell.ofValue key).map fun c => c.map Cell.preferText

def removeRow (t : Tables) (wallet : Value) : Except Failure Tables :=
  (keyOf wallet).map fun key => { t with rows := t.rows.filter fun row => some row.wallet ≠ key }

def removeProperty (t : Tables) (key : Value) : Except Failure Tables :=
  (keyOf key).map fun key =>
    { t with properties := t.properties.filter fun entry => some entry.1 ≠ key }

def adminKey : String := "admin_address"

def nextKey : String := "next_contract_address"

/-- A missing value of a property is stored as an empty text. -/
def orEmpty : Value → Value
  | .null => .text ""
  | v => v

def namedStatuses : List (Value × Record) → Except Failure (List Value)
  | [] => .ok []
  | (_, record) :: rest => do
    let name ← Status.nameOf record.status
    let rest ← namedStatuses rest
    .ok (name :: rest)

def addProperty (t : Tables) (entry : Cell × Cell) : Except Failure Tables :=
  if t.properties.any (·.1 = entry.1) then .error (.database .constraint)
  else .ok { t with properties := t.properties ++ [entry] }

def hasIntactProperties (t : Tables) : Bool :=
  t.properties.all fun entry => entry.1.isIntact && entry.2.isIntact

/-- The value of a property. Properties are read together or not at all. -/
def property? (t : Tables) (key : String) : Option Value :=
  if t.hasIntactProperties then
    (t.properties.find? fun entry => entry.1 = .text key).map fun entry => entry.2.toValue
  else none

/-- The record of a row, or nothing if its status cannot be read. Numbers that cannot be read are
failures. -/
def recordOf (row : Row) : Except Failure (Option Record) :=
  match Status.ofValue row.status.toValue with
  | .error _ => .ok none
  | .ok status => do
    let score ← row.trustScore.toValue.toInteger
    let time ← row.updatedAt.toValue.toInteger
    .ok (some ⟨.status status, .int score, .int time⟩)

/-- The records of rows by wallet, and how many rows were dropped. -/
def recordsOf : List Row → Except Failure (List (Value × Record) × Nat)
  | [] => .ok ([], 0)
  | row :: rest => do
    let record ← recordOf row
    let (records, dropped) ← recordsOf rest
    match record with
    | some record => .ok ((row.wallet.toValue, record) :: records, dropped)
    | none => .ok (records, dropped + 1)

/-- The administrator that the tables name, unless they name none. -/
def admin? (t : Tables) : Option Value :=
  match t.property? adminKey with
  | some v => if v.isEmpty then none else some v
  | none => none

def checkIntact (intact : Bool) : Except Failure Unit :=
  if intact then .ok () else .error (.database .badText)

/-- The records of the rows, which are all read before any of them is looked at. -/
def records (t : Tables) : Except Failure (List (Value × Record) × Nat) := do
  checkIntact (t.rows.all Row.isIntact)
  recordsOf t.rows

/-- The snapshot that the tables hold, and how many rows were dropped; there is none before an
administrator was stored. -/
def snapshot? (t : Tables) : Except Failure (Option (Snapshot × Nat)) := do
  checkIntact t.hasIntactProperties
  match t.admin? with
  | none => .ok none
  | some admin => do
    let (records, dropped) ← t.records
    let next := (t.property? nextKey).getD (.text "")
    .ok (some ({ admin, next := if next.isEmpty then .text "" else next, records }, dropped))

def shown (t : Tables) : Except Failure Tables := do
  checkIntact (t.rows.all Row.isIntact && t.hasIntactProperties)
  .ok t

end Tables
end WalletTrust.Store
