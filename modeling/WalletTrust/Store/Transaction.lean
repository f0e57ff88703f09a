import WalletTrust.Store.Database

/-!
# Transactions

A snapshot replaces what is stored statement by statement: everything is deleted, and then the
properties and the rows are inserted one after the other. Whatever fails on the way, the transaction
is rolled back to the content at its start.
-/

namespace WalletTrust.Store

inductive Statement where
  | deleteRows
  | deleteProperties
  | insertProperty (key value : Value)
  | insertRow (wallet status score time : Value)

def Tables.after (t : Tables) : Statement → Except Failure Tables
  | .deleteRows => .ok { t with rows := [] }
  | .deleteProperties => .ok { t with properties := [] }
  | .insertProperty key value => propertyOf key value >>= t.addProperty
  | .insertRow wallet status score time => rowOf wallet status score time >>= t.addRow

/-- Carries out a statement. The tables are changed at once, but not for good. -/
def execute (statement : Statement) : Process Store Unit := do
  let t ← Process.query tables
  Process.query checkWritable
  let t ← Process.ofExcept (t.after statement)
  Process.modify (·.put (some t))

/-- Carries out statements from a position in a transaction on, and tells the position behind
them. -/
def carryOut (position : Nat) : List Statement → Process Store Nat
  | [] => return position
  | statement :: rest => do
    Process.query (·.strike position)
    execute statement
    carryOut (position + 1) rest

/-- The statements that insert a snapshot, given the names of the statuses in it. -/
def insertions (s : Snapshot) (statuses : List Value) : List Statement :=
  .insertProperty (.text Tables.adminKey) (Tables.orEmpty s.admin) ::
    .insertProperty (.text Tables.nextKey) (Tables.orEmpty s.next) ::
    (s.records.zip statuses).map fun ((wallet, record), status) =>
      .insertRow wallet status record.trustScore record.updatedAt

/-- Deletes what is stored and inserts a snapshot. The last position is that of the commit. -/
def replace (snapshot : Snapshot) : Process Store Unit := do
  let position ← carryOut 0 [.deleteRows, .deleteProperties]
  let statuses ← Process.ofExcept (Tables.namedStatuses snapshot.records)
  let position ← carryOut position (insertions snapshot statuses)
  Process.query (·.strike position)

def rolledBack (start s : Store) : Store := { s with disk := start.disk, own? := start.own? }

def transaction {α : Type} (x : Process Store α) : Process Store α := fun start =>
  (x start).rescue fun f => do
    Process.modify (rolledBack start)
    Process.fail f

end WalletTrust.Store
