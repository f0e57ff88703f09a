import WalletTrust.Process
import WalletTrust.Store.Disk
import WalletTrust.Store.Location

/-!
# The database of a store

A store finds its tables through a connection to the place that its address names. The database may
lie where others can reach it as well, and the driver in between may give up.
-/

namespace WalletTrust

open Store (Content Location Tables)

/-- A driver that gives up. Within a transaction it first carries out some statements. -/
structure Store.Fault where
  after : Nat := 0
  cause : Failure

structure Store where
  url : Text.Points
  location : Location
  /-- The places outside of the store, as they are now. -/
  disk : Disk := []
  /-- The tables in memory of the store alone, once they were created. -/
  own? : Option Tables := none
  fault? : Option Store.Fault := none
  deriving Inhabited

namespace Store

def connect (url : Text.Points) (disk : Disk) : Except Failure Store :=
  (Location.ofUrl url).map fun location => { url, location, disk }

/-- The same address again: what lay in memory is gone. -/
def reopen (s : Store) : Store := { s with disk := s.disk.kept none, own? := none }

/-- The store after a connection was tried, which may make its file. -/
def touched (s : Store) : Store :=
  match s.location with
  | .shared place access => { s with disk := s.disk.touch place access }
  | _ => s

/-- Goes through unless this is the statement of a transaction that the driver gives up on. -/
def strike (s : Store) (position : Nat) : Except Failure Unit :=
  match s.fault? with
  | some fault => if fault.after = position then .error fault.cause else .ok ()
  | none => .ok ()

/-- The tables in the database, if they were created. -/
def content (s : Store) : Except Failure (Option Tables) :=
  match s.location with
  | .own _ _ => .ok s.own?
  | .shared place access => s.disk.contentAt place access >>= Content.tables?
  | .unreachable f => .error f

/-- The tables that a connection finds. To find them is a statement of its own. -/
def found (s : Store) : Except Failure (Option Tables) := do
  s.strike 0
  s.content

def put (s : Store) (tables? : Option Tables) : Store :=
  match s.location with
  | .own _ _ => { s with own? := tables? }
  | .shared place _ => { s with disk := s.disk.set place (.ofTables? tables?) }
  | .unreachable _ => s

def isWritable (s : Store) : Bool :=
  match s.location with
  | .own _ writable => writable
  | .shared place access => s.disk.isWritable place access
  | .unreachable _ => false

def checkWritable (s : Store) : Except Failure Unit :=
  if s.isWritable then .ok () else .error (.database .readOnly)

/-- The tables, which must have been created. -/
def tables (s : Store) : Except Failure Tables := do
  match ← s.found with
  | some t => .ok t
  | none => .error (.database .missing)

def write (tables? : Option Tables) : Process Store Unit := do
  Process.query checkWritable
  Process.modify (·.put tables?)

def created : Process Store Unit := do
  match ← Process.query found with
  | some _ => return
  | none => write (some {})

def dropTables : Process Store Unit := do
  match ← Process.query found with
  | some _ => write none
  | none => return

/-- Carries out a single change, whose values are handed over before the database is found to be
read-only; constraints are looked at last. -/
def edit (f : Tables → Except Failure Tables) : Process Store Unit := do
  let t ← Process.query tables
  match f t with
  | .ok t => write (some t)
  | .error (.database .constraint) => do
    Process.query checkWritable
    Process.fail (.database .constraint)
  | .error e => Process.fail e

end Store
end WalletTrust
