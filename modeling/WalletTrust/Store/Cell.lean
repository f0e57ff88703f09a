import WalletTrust.Failure
import WalletTrust.Store.Number

/-!
# Cells of a table

What a column stores. A column prefers integers or texts and turns what it is given into one as far
as nothing is lost; anything else it stores as it is.
-/

namespace WalletTrust.Store

inductive Cell where
  | integer (n : Int)
  | real (x : Binary64)
  | text (s : String)
  /-- A text of bytes that are not UTF-8, which no read gets past. -/
  | garbled (bytes : List UInt8)
  | blob (data : List UInt8)
  deriving DecidableEq, Repr, Inhabited

namespace Cell

/-- The end of the integers that a column holds. -/
abbrev wordEnd : Int := 0x8000000000000000

def inWord (n : Int) : Bool := -wordEnd ≤ n && n < wordEnd

def toValue : Cell → Value
  | .integer n => .int n
  | .real x => .float x
  | .text s => .text s
  | .garbled bytes => .bytes bytes
  | .blob data => .bytes data

def isIntact : Cell → Bool
  | .garbled _ => false
  | _ => true

/-- The cell that a value is handed over as, or none for a missing value. -/
def ofValue : Value → Except Failure (Option Cell)
  | .null => .ok none
  | .bool b => .ok (some (.integer (if b then 1 else 0)))
  | .int n =>
    if inWord n then .ok (some (.integer n)) else .error (.integerTooWide "SQLite INTEGER")
  | .float .nan => .ok none
  | .float x => .ok (some (.real x))
  | .text s => .ok (some (.text s))
  | .status s => .ok (some (.text s.name))
  | .bytes data => .ok (some (.blob data))
  | .broken _ => .error .notEncodable
  | _ => .error (.database .unstorable)

/-- A whole double strictly between the ends of the integers is stored as an integer. -/
def wholeOrReal (x : Binary64) : Cell :=
  match x.toInt? with
  | some n => if -wordEnd < n ∧ n < wordEnd - 1 then .integer n else .real x
  | none => .real x

/-- ASCII digits and what follows them, as numbers. -/
def digitRun (points : List Nat) : List Nat × List Nat :=
  let digits := points.takeWhile fun p => 0x30 ≤ p && p ≤ 0x39
  (digits.map (· - 0x30), points.drop digits.length)

def exponent? : List Nat → Option (Bool × List Nat)
  | [] => some (false, [])
  | mark :: rest =>
    let (negative, unsigned) := Text.splitSign rest
    match digitRun unsigned with
    | (digit :: digits, []) =>
      if mark = 0x65 ∨ mark = 0x45 then some (negative, digit :: digits) else none
    | _ => none

def numberOf? (s : String) : Option Cell := do
  let (negative, unsigned) := Text.splitSign (Text.trimBy Text.isAsciiBlank (Text.toPoints s))
  let (whole, rest) := digitRun unsigned
  let pointed := rest.head? == some 0x2e
  let (fraction, rest) := if pointed then digitRun rest.tail else ([], rest)
  if whole.isEmpty && fraction.isEmpty then none
  else
    let (exponentNegative, exponent) ← exponent? rest
    let size := Text.ofDigits whole
    let n : Int := if negative then -(size : Int) else size
    if !pointed && rest.isEmpty && inWord n then some (.integer n)
    else some (wholeOrReal (Number.read negative whole fraction exponentNegative exponent))

def preferInteger : Cell → Cell
  | .real x => wholeOrReal x
  | .text s => (numberOf? s).getD (.text s)
  | c => c

def preferText : Cell → Cell
  | .integer n => .text (toString n)
  | .real x => .text (Number.text x)
  | c => c

example : preferInteger (.text " 5. ") = .integer 5 := by decide +kernel

example : preferInteger (.text "1_0") = .text "1_0" := by decide +kernel

end Cell
end WalletTrust.Store
