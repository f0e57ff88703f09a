import WalletTrust.Store.Place
import WalletTrust.Store.Tables

/-!
# What lies in places that stores have in common

A place holds a text or the tables of a database. A text of one byte at most is a database without
tables, and an empty one is what a connection makes where nothing is. Memory lasts as long as a
store is on it, and where connections share it the first one decides whether it may be changed.
-/

namespace WalletTrust

namespace Store

inductive Content where
  | text (s : String)
  | tables (t : Tables)
  /-- A database without tables to which none can be added. -/
  | closed
  deriving DecidableEq, Repr, Inhabited

namespace Content

def ofTables? (tables? : Option Tables) : Content :=
  match tables? with
  | some t => .tables t
  | none => .text ""

/-- The tables in a content, if they were created; longer texts are no database. -/
def tables? : Content → Except Failure (Option Tables)
  | .tables t => .ok (some t)
  | .closed => .ok none
  | .text s => if (Text.utf8 s).length ≤ 1 then .ok none else .error (.database .noDatabase)

def text? : Content → Except Failure String
  | .text s => .ok s
  | .tables _ => .error .notText
  | .closed => .ok ""

/-- What a connection makes in a place where nothing is. -/
def fresh (place : Place) (a : Access) : Content :=
  match place with
  | .cache _ _ => if a.writable then .text "" else .closed
  | _ => .text ""

theorem tables?_ofTables? (tables? : Option Tables) :
    (ofTables? tables?).tables? = .ok tables? := by
  cases tables? <;> rfl

end Content
end Store

open Store (Access Content Location Path Place)

abbrev Disk := List (Place × Content)

namespace Disk

def get? (d : Disk) (place : Place) : Option Content := (d.find? (·.1 == place)).map (·.2)

def set (d : Disk) (place : Place) (content : Content) : Disk :=
  (place, content) :: d.filter (·.1 ≠ place)

/-- Whether the file that a new one is modelled on is there, if there has to be one. -/
def hasModel (d : Disk) (a : Access) : Bool :=
  a.model?.all fun path => (d.get? (.file path)).isSome

def contentAt (d : Disk) (place : Place) (a : Access) : Except Failure Content :=
  if !d.hasModel a then .error (.database .missing)
  else match d.get? place with
    | some content => .ok content
    | none => if a.creates then .ok (.fresh place a) else .error (.database .missing)

def touch (d : Disk) (place : Place) (a : Access) : Disk :=
  match d.contentAt place a with
  | .ok content => d.set place content
  | .error _ => d

def isWritable (d : Disk) (place : Place) (a : Access) : Bool :=
  match place, d.get? place with
  | .cache _ _, some content => content ≠ .closed
  | _, _ => a.writable

/-- The memory that a store is on. -/
def isHeldBy (location? : Option Location) (place : Place) : Bool :=
  match place, location? with
  | .file _, _ => true
  | _, some (.shared held _) => held == place
  | _, _ => false

/-- The places that stay while one store is there, or none. -/
def kept (d : Disk) (location? : Option Location) : Disk :=
  d.filter fun entry => isHeldBy location? entry.1

theorem get?_set (d : Disk) (place other : Place) (content : Content) :
    (d.set place content).get? other = if place = other then some content else d.get? other := by
  by_cases h : place = other
  · simp [set, get?, h]
  · simp only [set, get?, List.find?_cons, beq_eq_false_iff_ne.2 h, List.find?_filter, h, if_false]
    congr 2
    funext entry
    by_cases he : entry.1 = other
    · simp [he, Ne.symm h]
    · simp [he]

end Disk
end WalletTrust
