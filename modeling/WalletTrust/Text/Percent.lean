import WalletTrust.Text.Unicode

/-!
# Percent escapes

A byte may be written as a percent sign and two hexadecimal digits. What is no such escape stands
for itself.
-/

namespace WalletTrust.Text

def unescaped : List Nat → List Nat
  | [] => []
  | 0x25 :: a :: b :: rest =>
    match hexValue? a, hexValue? b with
    | some high, some low => (high * 16 + low) :: unescaped rest
    | _, _ => 0x25 :: unescaped (a :: b :: rest)
  | byte :: rest => byte :: unescaped rest

/-- A text without its escapes, of which a run of ASCII was read already, last first. What the
escapes of a run make is text, with a replacement for what is none. -/
def percentDecodedFrom (read : Points) : Points → Points
  | [] => utf8ReplacedFrom 0 (unescaped read.reverse)
  | point :: rest =>
    if point < 0x80 then percentDecodedFrom (point :: read) rest
    else utf8ReplacedFrom 0 (unescaped read.reverse) ++ point :: percentDecodedFrom [] rest

def percentDecoded (points : Points) : Points := percentDecodedFrom [] points

def byteEscape (byte : Nat) : List Char := '%' :: (hexadecimal 2 byte).map Char.toUpper

example : percentDecoded (toPoints "a%2Fb%zzé%c3") = toPoints "a/b%zzé\ufffd" := by decide +kernel

end WalletTrust.Text
