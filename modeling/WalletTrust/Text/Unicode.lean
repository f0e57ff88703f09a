/-!
# Encoded text

Reads UTF-8, UTF-16 and UTF-32 as code points, strictly or with a replacement for what is malformed,
and writes UTF-8. Code points are numbers, because documents may hold surrogates on their own, which
are no characters.
-/

namespace WalletTrust.Text

/-- A string as the numbers of its code points. -/
abbrev Points := List Nat

/-- Surrogates are halves of a pair and no characters. -/
def isSurrogate (point : Nat) : Bool := 0xd800 ≤ point && point ≤ 0xdfff

def isHighSurrogate (point : Nat) : Bool := 0xd800 ≤ point && point ≤ 0xdbff

def isLowSurrogate (point : Nat) : Bool := 0xdc00 ≤ point && point ≤ 0xdfff

def joinSurrogates (high low : Nat) : Nat := 0x10000 + (high - 0xd800) * 0x400 + (low - 0xdc00)

def ofPoints (points : Points) : String := String.ofList (points.map Char.ofNat)

/-- Code points as a text, if all of them are characters. -/
def ofPoints? (points : Points) : Option String :=
  if points.any isSurrogate then none else some (ofPoints points)

def toPoints (s : String) : Points := s.toList.map Char.toNat

theorem toPoints_append (s t : String) : toPoints (s ++ t) = toPoints s ++ toPoints t := by
  simp [toPoints]

theorem isSurrogate_toNat (c : Char) : isSurrogate c.toNat = false := by
  have hvalid := c.valid
  simp only [UInt32.isValidChar, Nat.isValidChar] at hvalid
  simp only [isSurrogate, Bool.and_eq_false_iff, decide_eq_false_iff_not, Char.toNat]
  omega

/-- A text is the string of its own code points. -/
theorem ofPoints?_toPoints (s : String) : ofPoints? (toPoints s) = some s := by
  have hnone : (toPoints s).any isSurrogate = false := by simp [toPoints, isSurrogate_toNat]
  have hchars : (toPoints s).map Char.ofNat = s.toList := by
    simp [toPoints, Function.comp_def, Char.ofNat_toNat]
  rw [ofPoints?, hnone, ofPoints, hchars, String.ofList_toList]
  rfl

/-- Whether a text does not come after another, point by point. -/
def notAfter (a b : Points) : Bool := !b.lex a Nat.blt

def replacement : Nat := 0xfffd

/-- The range that the second byte of a longer sequence must lie in: it excludes overlong forms and
code points above the last, and surrogates unless they are allowed. -/
def secondRange (surrogates : Bool) (lead : Nat) : Nat × Nat :=
  if lead = 0xe0 then (0xa0, 0xbf)
  else if lead = 0xed ∧ surrogates = false then (0x80, 0x9f)
  else if lead = 0xf0 then (0x90, 0xbf)
  else if lead = 0xf4 then (0x80, 0x8f)
  else (0x80, 0xbf)

/-- Bytes that follow a lead byte and the bits it contributes; a byte that leads nothing has none.
-/
def leadOf? (b : Nat) : Option (Nat × Nat) :=
  if b < 0x80 then some (0, b)
  else if 0xc2 ≤ b ∧ b ≤ 0xdf then some (1, b - 0xc0)
  else if 0xe0 ≤ b ∧ b ≤ 0xef then some (2, b - 0xe0)
  else if 0xf0 ≤ b ∧ b ≤ 0xf4 then some (3, b - 0xf0)
  else none

/-- A decoded unit: a code point, or the length of a malformed part. -/
inductive Unit8 where
  | point (value : Nat) (length : Nat)
  | malformed (length : Nat)

/-- Reads the bytes after a lead; the malformed part ends before the first byte that does not fit.
-/
def continuation : Nat → Nat × Nat → Nat → Nat → List Nat → Unit8
  | 0, _, value, length, _ => .point value length
  | _ + 1, _, _, length, [] => .malformed length
  | n + 1, (low, high), value, length, b :: rest =>
    if low ≤ b ∧ b ≤ high then
      continuation n (0x80, 0xbf) (value * 64 + (b - 0x80)) (length + 1) rest
    else .malformed length

def firstUnit (surrogates : Bool) (b : Nat) (rest : List Nat) : Unit8 :=
  match leadOf? b with
  | none => .malformed 1
  | some (n, bits) => continuation n (secondRange surrogates b) bits 1 rest

/-- Strict UTF-8, with surrogates let through if `surrogates` holds. The first number counts bytes
that belong to the unit before. -/
def utf8From (surrogates : Bool) : Nat → List Nat → Option (List Nat)
  | _, [] => some []
  | skip + 1, _ :: rest => utf8From surrogates skip rest
  | 0, b :: rest => match firstUnit surrogates b rest with
    | .point value length => (utf8From surrogates (length - 1) rest).map (value :: ·)
    | .malformed _ => none

/-- UTF-8 in which each malformed part becomes one replacement character. -/
def utf8ReplacedFrom : Nat → List Nat → List Nat
  | _, [] => []
  | skip + 1, _ :: rest => utf8ReplacedFrom skip rest
  | 0, b :: rest => match firstUnit false b rest with
    | .point value length => value :: utf8ReplacedFrom (length - 1) rest
    | .malformed length => replacement :: utf8ReplacedFrom (length - 1) rest

def utf8Replaced (bytes : List Nat) : String := ofPoints (utf8ReplacedFrom 0 bytes)

def isUtf8 (bytes : List Nat) : Bool := (utf8From false 0 bytes).isSome

/-- Units of two bytes; an odd number of bytes is malformed. -/
def units16 (bigEndian : Bool) : List Nat → Option (List Nat)
  | [] => some []
  | [_] => none
  | a :: b :: rest =>
    (units16 bigEndian rest).map ((if bigEndian then a * 256 + b else b * 256 + a) :: ·)

/-- Pairs of surrogates become one code point, others stay. -/
def pairUp : List Nat → List Nat
  | [] => []
  | [a] => [a]
  | a :: b :: rest =>
    if isHighSurrogate a && isLowSurrogate b then joinSurrogates a b :: pairUp rest
    else a :: pairUp (b :: rest)

def utf16 (bigEndian : Bool) (bytes : List Nat) : Option (List Nat) :=
  (units16 bigEndian bytes).map pairUp

def utf32 (bigEndian : Bool) : List Nat → Option (List Nat)
  | [] => some []
  | a :: b :: c :: d :: rest =>
    let point := if bigEndian then ((a * 256 + b) * 256 + c) * 256 + d
      else ((d * 256 + c) * 256 + b) * 256 + a
    if point ≤ 0x10ffff then (utf32 bigEndian rest).map (point :: ·) else none
  | _ => none

/-- The code points of a document, whose encoding shows in its first bytes: a mark in front of it,
which is no part of it, or else the places of the zero bytes. -/
def documentPoints? (bytes : List Nat) : Option (List Nat) :=
  match bytes with
  | 0 :: 0 :: 0xfe :: 0xff :: rest => utf32 true rest
  | 0xff :: 0xfe :: 0 :: 0 :: rest => utf32 false rest
  | 0xfe :: 0xff :: rest => utf16 true rest
  | 0xff :: 0xfe :: rest => utf16 false rest
  | 0xef :: 0xbb :: 0xbf :: rest => utf8From true 0 rest
  | 0 :: 0 :: _ :: _ :: _ => utf32 true bytes
  | 0 :: _ :: _ :: _ :: _ => utf16 true bytes
  | _ :: 0 :: 0 :: 0 :: _ => utf32 false bytes
  | _ :: 0 :: _ :: _ :: _ => utf16 false bytes
  | [0, _] => utf16 true bytes
  | [_, 0] => utf16 false bytes
  | _ => utf8From true 0 bytes

def utf8Bytes (point : Nat) : List Nat :=
  if point < 0x80 then [point]
  else if point < 0x800 then [0xc0 + point / 64, 0x80 + point % 64]
  else if point < 0x10000 then [0xe0 + point / 4096, 0x80 + point / 64 % 64, 0x80 + point % 64]
  else [0xf0 + point / 262144, 0x80 + point / 4096 % 64, 0x80 + point / 64 % 64, 0x80 + point % 64]

def utf8 (s : String) : List Nat := s.toList.flatMap fun c => utf8Bytes c.toNat

def hexDigit (n : Nat) : Char := Nat.digitChar n

/-- The last `width` hexadecimal digits, in lower case. -/
def hexadecimal : Nat → Nat → List Char
  | 0, _ => []
  | width + 1, n => hexadecimal width (n / 16) ++ [hexDigit (n % 16)]

def hexValue? (point : Nat) : Option Nat :=
  if 0x30 ≤ point ∧ point ≤ 0x39 then some (point - 0x30)
  else if 0x61 ≤ point ∧ point ≤ 0x66 then some (point - 0x61 + 10)
  else if 0x41 ≤ point ∧ point ≤ 0x46 then some (point - 0x41 + 10)
  else none

end WalletTrust.Text
