import WalletTrust.Text.Unicode

/-!
# Text made of raw bytes

A system hands over names and values as bytes, which need not be well-formed. A byte that belongs to
no character is carried as a low surrogate on its own, so that the bytes can be had back.
-/

namespace WalletTrust.Text

/-- The surrogate that carries a byte is this far above it. -/
def rawOffset : Nat := 0xdc00

def carriesByte (point : Nat) : Bool := rawOffset + 0x80 ≤ point && point ≤ rawOffset + 0xff

/-- The bytes of a code point; another surrogate has none. -/
def rawBytes? (point : Nat) : Option (List Nat) :=
  if carriesByte point then some [point - rawOffset]
  else if isSurrogate point then none
  else some (utf8Bytes point)

/-- The bytes of a text, if all of its code points have some. -/
def bytesOf? (points : Points) : Option (List Nat) := (points.mapM rawBytes?).map List.flatten

/-- The code points of bytes. The first number counts bytes that belong to the unit before. -/
def ofBytesFrom : Nat → List Nat → Points
  | _, [] => []
  | skip + 1, _ :: rest => ofBytesFrom skip rest
  | 0, b :: rest => match firstUnit false b rest with
    | .point value length => value :: ofBytesFrom (length - 1) rest
    | .malformed length =>
      ((b :: rest).take length).map (rawOffset + ·) ++ ofBytesFrom (length - 1) rest

def ofBytes (bytes : List Nat) : Points := ofBytesFrom 0 bytes

example : (bytesOf? [0xdcc3, 0xdca9, 0xdc80]).map ofBytes = some [0xe9, 0xdc80] := by
  decide +kernel

end WalletTrust.Text
