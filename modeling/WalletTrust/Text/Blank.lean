import WalletTrust.Text.Unicode

/-!
# Blanks at the ends of a text
-/

namespace WalletTrust.Text

/-- Every space, tabulator, line and field separator of Unicode. -/
def isBlankPoint (point : Nat) : Bool :=
  (9 ≤ point && point ≤ 13) || (0x1c ≤ point && point ≤ 0x20) || point == 0x85 || point == 0xa0 ||
    point == 0x1680 || (0x2000 ≤ point && point ≤ 0x200a) || point == 0x2028 || point == 0x2029 ||
    point == 0x202f || point == 0x205f || point == 0x3000

def isBlank (c : Char) : Bool := isBlankPoint c.toNat

/-- The blanks that may surround a number: the field separators of ASCII are none of them. -/
def isNumberBlank (point : Nat) : Bool := isBlankPoint point && !(0x1c ≤ point && point ≤ 0x1f)

/-- Drops what satisfies `p` from both ends. -/
def trimBy {α : Type} (p : α → Bool) (s : List α) : List α :=
  ((s.dropWhile p).reverse.dropWhile p).reverse

def stripped (points : Points) : Points := trimBy isBlankPoint points

def strip (s : String) : String := String.ofList (trimBy isBlank s.toList)

def stripEnd (s : List Char) : List Char := (s.reverse.dropWhile isBlank).reverse

end WalletTrust.Text
