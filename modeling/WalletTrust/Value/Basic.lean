import WalletTrust.Binary64.Basic
import WalletTrust.Status
import WalletTrust.Text.Unicode

/-!
# Values of any kind

Callers, stored cells and documents hand over values whose kind is not known beforehand. Comparison
goes by content: truth values and whole doubles equal integers, and a status equals its name.
-/

namespace WalletTrust

inductive Value where
  | null
  | bool (b : Bool)
  | int (n : Int)
  | float (x : Binary64)
  | text (s : String)
  /-- A string of code points some of which are surrogates, so that it is no text. -/
  | broken (points : Text.Points)
  | bytes (data : List UInt8)
  | status (s : Status)
  | list (items : List Value)
  | tuple (items : List Value)
  | map (entries : List (Value × Value))
  deriving Repr, Inhabited

namespace Value

/-- A string of code points, which is a text unless there are surrogates in it. -/
def ofPoints (points : Text.Points) : Value :=
  match Text.ofPoints? points with
  | some s => .text s
  | none => .broken points

/-- What a message calls the kind of a value. -/
def kind : Value → String
  | .null => "NoneType"
  | .bool _ => "bool"
  | .int _ => "int"
  | .float _ => "float"
  | .text _ => "str"
  | .broken _ => "str"
  | .bytes _ => "bytes"
  | .status _ => "AuthStatus"
  | .list _ => "list"
  | .tuple _ => "tuple"
  | .map _ => "dict"

/-- Values that count as absent where a value may be missing. -/
def isEmpty : Value → Bool
  | .null => true
  | .bool b => !b
  | .int n => n == 0
  | .float x => x.same (.zero false)
  | .text s => s == ""
  | .broken points => points.isEmpty
  | .bytes data => data.isEmpty
  | .status _ => false
  | .list items => items.isEmpty
  | .tuple items => items.isEmpty
  | .map entries => entries.isEmpty

/-- A number, which may be written as a truth value. -/
def integer? : Value → Option Int
  | .bool b => some (if b then 1 else 0)
  | .int n => some n
  | _ => none

/-- The text of a string; a status is the string of its name. -/
def string? : Value → Option String
  | .text s => some s
  | .status s => some s.name
  | _ => none

/-- Equality of values that hold no others. -/
def sameAtom (a b : Value) : Bool :=
  match a, b with
  | .null, .null => true
  | .float x, .float y => x.same y
  | .float x, _ => match b.integer? with
    | some n => x.toInt? == some n
    | none => false
  | _, .float y => match a.integer? with
    | some n => y.toInt? == some n
    | none => false
  | .broken p, .broken q => p == q
  | .bytes p, .bytes q => p == q
  | _, _ =>
    match a.integer?, b.integer? with
    | some m, some n => m == n
    | _, _ => match a.string?, b.string? with
      | some s, some t => s == t
      | _, _ => false

mutual
def same : Value → Value → Bool
  | .list xs, .list ys => sameList xs ys
  | .tuple xs, .tuple ys => sameList xs ys
  | .map es, .map fs => es.length == fs.length && sameEntries es fs
  | a, b => sameAtom a b

def sameList : List Value → List Value → Bool
  | [], [] => true
  | x :: xs, y :: ys => same x y && sameList xs ys
  | _, _ => false

def sameEntries : List (Value × Value) → List (Value × Value) → Bool
  | [], _ => true
  | (k, v) :: es, fs => (fs.any fun (k', v') => same k k' && same v v') && sameEntries es fs
end

mutual
/-- The kind that keeps a value from being a key, if one does. -/
def unkeyable? : Value → Option String
  | .list _ => some "list"
  | .map _ => some "dict"
  | .tuple items => unkeyableIn? items
  | _ => none

def unkeyableIn? : List Value → Option String
  | [] => none
  | x :: xs => match unkeyable? x with
    | some k => some k
    | none => unkeyableIn? xs
end

/-- Removes repetitions, keeping the first of equal values. -/
def distinct : List Value → List Value
  | [] => []
  | v :: rest => v :: (distinct rest).filter fun w => !(v.same w)

def field? (name : String) : List (Value × Value) → Option Value
  | [] => none
  | (.text key, v) :: rest => if key = name then some v else field? name rest
  | _ :: rest => field? name rest

theorem same_text {s t : String} : (text s).same (text t) = true ↔ t = s := by
  simp only [same, sameAtom, integer?, string?, beq_iff_eq]
  exact eq_comm

/-- An entry replaces the one of the same key in its place, or goes to the end. -/
def setField (key value : Value) : List (Value × Value) → List (Value × Value)
  | [] => [(key, value)]
  | (k, v) :: rest => if k.same key then (k, value) :: rest else (k, v) :: setField key value rest

end Value
end WalletTrust
