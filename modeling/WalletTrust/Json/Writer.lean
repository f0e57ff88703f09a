import WalletTrust.Failure

/-!
# Values written as documents

A document is printable ASCII on one line: everything else in a string is escaped, beyond the first
plane as a pair of surrogates. Not every value has one: an integer may have too many digits, and the
names of entries are strings, or numbers and truth values that are written as such.
-/

namespace WalletTrust.Json

def unitEscape (unit : Nat) : List Char := '\\' :: 'u' :: Text.hexadecimal 4 unit

def escaped (point : Nat) : List Char :=
  if point = 0x22 then ['\\', '"']
  else if point = 0x5c then ['\\', '\\']
  else if point = 8 then ['\\', 'b']
  else if point = 9 then ['\\', 't']
  else if point = 10 then ['\\', 'n']
  else if point = 12 then ['\\', 'f']
  else if point = 13 then ['\\', 'r']
  else if 0x20 ≤ point ∧ point < 0x7f then [Char.ofNat point]
  else if point < 0x10000 then unitEscape point
  else
    unitEscape (0xd800 + (point - 0x10000) / 0x400) ++
      unitEscape (0xdc00 + (point - 0x10000) % 0x400)

def quoted (points : List Nat) : List Char := '"' :: points.flatMap escaped ++ ['"']

def quotedText (s : String) : List Char := quoted (Text.toPoints s)

/-- A double that is no number or infinite has a word of its own. -/
def realText : Binary64 → String
  | .nan => "NaN"
  | .infinite negative => if negative then "-Infinity" else "Infinity"
  | x => x.plain

def joined (separator : List Char) : List (List Char) → List Char
  | [] => []
  | [one] => one
  | one :: rest => one ++ separator ++ joined separator rest

def keyChars : Value → List Char
  | .text s => quotedText s
  | .broken points => quoted points
  | .status s => quotedText s.name
  | .null => quotedText "null"
  | .bool b => quotedText (if b then "true" else "false")
  | .float x => quotedText (realText x)
  | v => quotedText v.literal

def named (entry : String × Value) : Value × Value := (.text entry.1, entry.2)

def checkInteger (n : Int) : Except Failure Unit :=
  if (Value.int n).isWritable then .ok () else .error .integerTooLong

def checkName : Value → Except Failure Unit
  | .null => .ok ()
  | .bool _ => .ok ()
  | .int n => checkInteger n
  | .float _ => .ok ()
  | .text _ => .ok ()
  | .broken _ => .ok ()
  | .status _ => .ok ()
  | v => .error (.noEntryName v.kind)

mutual
/-- Goes through only if a value has a document. The parts are looked at in the order in which they
are written. -/
def check : Value → Except Failure Unit
  | .int n => checkInteger n
  | .list items => checkItems items
  | .tuple items => checkItems items
  | .map entries => checkEntries entries
  | _ => .ok ()

def checkItems : List Value → Except Failure Unit
  | [] => .ok ()
  | v :: rest => do
    check v
    checkItems rest

def checkEntries : List (Value × Value) → Except Failure Unit
  | [] => .ok ()
  | (k, v) :: rest => do
    checkName k
    check v
    checkEntries rest
end

mutual
/-- A document. Bytes are written as the text of their literal form, a status as its name. -/
def chars : Value → List Char
  | .null => "null".toList
  | .bool b => (if b then "true" else "false").toList
  | .int n => (toString n).toList
  | .float x => (realText x).toList
  | .text s => quotedText s
  | .broken points => quoted points
  | .bytes data => quotedText (Value.bytes data).literal
  | .status s => quotedText s.name
  | .list items => '[' :: joined [',', ' '] (itemChars items) ++ [']']
  | .tuple items => '[' :: joined [',', ' '] (itemChars items) ++ [']']
  | .map entries => '\x7b' :: joined [',', ' '] (entryChars entries) ++ ['\x7d']

def itemChars : List Value → List (List Char)
  | [] => []
  | v :: rest => chars v :: itemChars rest

def entryChars : List (Value × Value) → List (List Char)
  | [] => []
  | (k, v) :: rest => (keyChars k ++ ':' :: ' ' :: chars v) :: entryChars rest
end

def write (v : Value) : String := String.ofList (chars v)

end WalletTrust.Json
