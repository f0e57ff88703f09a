import WalletTrust.Text.Digit
import WalletTrust.Text.Printable
import WalletTrust.Text.Unicode
import WalletTrust.Binary64.Text
import WalletTrust.Value.Basic

/-!
# Written forms of a value

The literal form of a value shows its kind: texts are quoted, and what cannot be printed is escaped.
The display form shows a text as it is.
-/

namespace WalletTrust

namespace Text

def escaped (quote point : Nat) : List Char :=
  if point = quote ∨ point = 0x5c then ['\\', Char.ofNat point]
  else if point = 9 then ['\\', 't']
  else if point = 10 then ['\\', 'n']
  else if point = 13 then ['\\', 'r']
  else if isPrintable point then [Char.ofNat point]
  else if point < 0x100 then '\\' :: 'x' :: hexadecimal 2 point
  else if point < 0x10000 then '\\' :: 'u' :: hexadecimal 4 point
  else '\\' :: 'U' :: hexadecimal 8 point

def quoteFor (points : List Nat) : Nat :=
  if 0x27 ∈ points ∧ 0x22 ∉ points then 0x22 else 0x27

def quoted (points : List Nat) : String :=
  let quote := quoteFor points
  String.ofList (Char.ofNat quote :: points.flatMap (escaped quote) ++ [Char.ofNat quote])

/-- How a byte stands in quoted bytes: only ASCII counts as printable. -/
def escapedByte (quote byte : Nat) : List Char :=
  if 0x7f ≤ byte then '\\' :: 'x' :: hexadecimal 2 byte else escaped quote byte

def quotedBytes (data : List UInt8) : String :=
  let points := data.map UInt8.toNat
  let quote := quoteFor points
  String.ofList
    ('b' :: Char.ofNat quote :: points.flatMap (escapedByte quote) ++ [Char.ofNat quote])

end Text

namespace Value

mutual
def literal : Value → String
  | .null => "None"
  | .bool b => if b then "True" else "False"
  | .int n => toString n
  | .float x => x.plain
  | .text s => Text.quoted (Text.toPoints s)
  | .broken points => Text.quoted points
  | .bytes data => Text.quotedBytes data
  | .status s => "<AuthStatus." ++ s.name ++ ": " ++ Text.quoted (Text.toPoints s.name) ++ ">"
  | .list items => "[" ++ String.intercalate ", " (literals items) ++ "]"
  | .tuple items => match literals items with
    | [one] => "(" ++ one ++ ",)"
    | many => "(" ++ String.intercalate ", " many ++ ")"
  | .map entries => "\x7b" ++ String.intercalate ", " (literalEntries entries) ++ "\x7d"

def literals : List Value → List String
  | [] => []
  | v :: rest => literal v :: literals rest

def literalEntries : List (Value × Value) → List String
  | [] => []
  | (k, v) :: rest => (literal k ++ ": " ++ literal v) :: literalEntries rest
end

mutual
/-- Whether the literal form can be written. An integer of too many digits has none, wherever it
stands. -/
def isWritable : Value → Bool
  | .int n => n.natAbs < Nat.pow 10 Text.digitLimit
  | .list items => areWritable items
  | .tuple items => areWritable items
  | .map entries => haveWritable entries
  | _ => true

def areWritable : List Value → Bool
  | [] => true
  | v :: rest => isWritable v && areWritable rest

def haveWritable : List (Value × Value) → Bool
  | [] => true
  | (k, v) :: rest => isWritable k && isWritable v && haveWritable rest
end

def display : Value → Text.Points
  | .text s => Text.toPoints s
  | .broken points => points
  | .status s => Text.toPoints ("AuthStatus." ++ s.name)
  | v => Text.toPoints v.literal

def displayed (v : Value) : Value := ofPoints v.display

example : literal (.text "it's") = "\"it's\"" := by decide +kernel

example : literal (.list [.int 1, .text "a"]) = "[1, 'a']" := by decide +kernel

end Value
end WalletTrust
