import WalletTrust.Failure
import WalletTrust.Text.Unicode

/-!
# Values in answers

Which values a document in an answer can hold: no infinite number, no half of a surrogate pair, and
bytes only if they are text.
-/

namespace WalletTrust.Http

/-- Entries of objects with a name that starts like this are not shown. -/
def hiddenStart : List Char := "_sa".toList

def isHidden : Value → Bool
  | .text s => hiddenStart.isPrefixOf s.toList
  | _ => false

mutual
def shown : Value → Except Failure Value
  | .bytes data =>
    let bytes := data.map UInt8.toNat
    if Text.isUtf8 bytes then .ok (.text (Text.utf8Replaced bytes)) else .error .notText
  | .list items => (shownList items).map .list
  | .tuple items => (shownList items).map .list
  | .map entries => (shownEntries entries).map .map
  | .status s => .ok (.text s.name)
  | v => .ok v

def shownList : List Value → Except Failure (List Value)
  | [] => .ok []
  | v :: rest => do
    let v ← shown v
    let rest ← shownList rest
    .ok (v :: rest)

def shownEntries : List (Value × Value) → Except Failure (List (Value × Value))
  | [] => .ok []
  | (k, v) :: rest =>
    if isHidden k then shownEntries rest
    else do
      let v ← shown v
      let rest ← shownEntries rest
      .ok ((k, v) :: rest)
end

mutual
def anyPart (p : Value → Bool) : Value → Bool
  | .list items => anyIn p items
  | .tuple items => anyIn p items
  | .map entries => anyEntry p entries
  | v => p v

def anyIn (p : Value → Bool) : List Value → Bool
  | [] => false
  | v :: rest => anyPart p v || anyIn p rest

def anyEntry (p : Value → Bool) : List (Value × Value) → Bool
  | [] => false
  | (k, v) :: rest => p k || anyPart p v || anyEntry p rest
end

def isUnwritable : Value → Bool
  | .float x => !x.isFinite
  | _ => false

def isBrokenText : Value → Bool
  | .broken _ => true
  | _ => false

def isBytes : Value → Bool
  | .bytes _ => true
  | _ => false

/-- A document, if it can be written and encoded. -/
def writable (v : Value) : Except Failure Value :=
  if anyPart isBytes v then .error (.arguments "Object of type bytes is not JSON serializable")
  else if anyPart isUnwritable v then .error .notWritable
  else if anyPart isBrokenText v then .error .notEncodable
  else .ok v

end WalletTrust.Http
