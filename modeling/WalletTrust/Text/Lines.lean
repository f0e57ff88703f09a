import WalletTrust.Text.Unicode

/-!
# Lines of a text

A text falls into lines at every line, paragraph and field separator of Unicode that is no unit
separator. What follows the last separator is a line only if it is not empty.
-/

namespace WalletTrust.Text

def endsLine (point : Nat) : Bool :=
  (0xa ≤ point && point ≤ 0xd) || (0x1c ≤ point && point ≤ 0x1e) || point == 0x85 ||
    point == 0x2028 || point == 0x2029

/-- The lines of a text of which some code points, last first, were read already. A carriage return
and the line feed behind it end one line together. -/
def linesFrom (read : Points) : Points → List Points
  | [] => if read.isEmpty then [] else [read.reverse]
  | 0xd :: 0xa :: rest => read.reverse :: linesFrom [] rest
  | point :: rest =>
    if endsLine point then read.reverse :: linesFrom [] rest else linesFrom (point :: read) rest

def lines (points : Points) : List Points := linesFrom [] points

example : lines (toPoints "a\r\n\nb") = [toPoints "a", [], toPoints "b"] := by decide +kernel

end WalletTrust.Text
