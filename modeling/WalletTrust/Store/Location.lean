import WalletTrust.Store.Dialect
import WalletTrust.Store.FileAddress
import WalletTrust.Store.Url
import WalletTrust.Text.Letter
import WalletTrust.Text.Raw
import WalletTrust.Value.Real

/-!
# Where an address leads

Only databases in files and in memory can be opened. Their addresses may carry options of the
connection; with one of them, a path is read as an address of a file with options of its own.
-/

namespace WalletTrust.Store.Location

open Text (Points)

def yesWords : List Points := ["true", "yes", "on", "y", "t", "1"].map Text.toPoints

def noWords : List Points := ["false", "no", "off", "n", "f", "0"].map Text.toPoints

/-- The value of an option: one text, or the tuple of several. -/
def optionValue : List Points → Value
  | [one] => .ofPoints one
  | many => .tuple (many.map .ofPoints)

/-- Reads an option as yes or no; several values mean yes. -/
def flagOf (values : List Points) : Except Failure Bool :=
  match values with
  | [one] =>
    let word := Text.lower (Text.stripped one)
    if yesWords.contains word then .ok true
    else if noWords.contains word then .ok false
    else .error (.noTruth (.ofPoints word))
  | _ => .ok true

def readOption {α : Type} (u : Url) (name : String) (read : List Points → Except Failure α) :
    Except Failure (Option α) :=
  match u.option name with
  | [] => .ok none
  | values => (read values).map some

/-- The options of the connection. All others belong to the file. -/
def connectionOptions : List String :=
  ["uri", "timeout", "isolation_level", "detect_types", "check_same_thread", "cached_statements"]

structure ConnectionMode where
  /-- Whether the path is an address of a file. -/
  address : Bool := false
  detectTypes : Int := 0
  cachedStatements : Int := 0

def connectionMode (u : Url) : Except Failure ConnectionMode := do
  let address ← readOption u "uri" flagOf
  let _ ← readOption u "timeout" fun values => (optionValue values).toReal
  let detectTypes ← readOption u "detect_types" fun values => (optionValue values).toInteger
  let _ ← readOption u "check_same_thread" flagOf
  let cachedStatements ← readOption u "cached_statements" fun values =>
    (optionValue values).toInteger
  .ok ⟨address.getD false, detectTypes.getD 0, cachedStatements.getD 0⟩

def inHalfWord (n : Int) : Bool := -0x80000000 ≤ n && n < 0x80000000

/-- Why no connection can be made with the options of an address, whatever the place. -/
def connectionFault? (u : Url) (m : ConnectionMode) : Option Failure :=
  let tooWide := Failure.integerTooWide "C int"
  if !inHalfWord m.detectTypes then some tooWide
  else if 1 < (u.option "isolation_level").length then some .badIsolation
  else if !inHalfWord m.cachedStatements then some tooWide
  else none

def optionText : List Points → Points
  | [one] => one
  | many => Text.toPoints (optionValue many).literal

/-- The path with options of the file behind it, sorted by name. -/
def withFileOptions (path : Points) (options : List (Points × List Points)) : Points :=
  match options.mergeSort fun a b => Text.notAfter a.1 b.1 with
  | [] => path
  | options => path ++ 0x3f :: List.intercalate [0x26] (options.map fun (name, values) =>
      name ++ 0x3d :: optionText values)

/-- The place of a name that a connection is made with, which is handed over in bytes. -/
def ofName (locate : List Nat → Location) (name : Points) : Location :=
  match Text.bytesOf? name with
  | none => .unreachable .notEncodable
  | some bytes =>
    if bytes.contains 0 then .unreachable .zeroByte
    else if bytes = [] ∨ bytes = memoryName then .own false true
    else locate bytes

def ofPlainPath (path : Points) : Location := ofName (ofPath · {}) path

def fileMark : List Nat := Text.toPoints "file:"

def ofMarkedPath (pooled : Bool) (path : Points) : Location :=
  path |> ofName fun bytes =>
    if fileMark.isPrefixOf bytes then FileAddress.locate pooled (bytes.drop fileMark.length)
    else ofPath bytes {}

/-- Whether all connections to a database are one: those to files are, unless an option says that
the database lies in memory. -/
def isPooled (u : Url) : Bool :=
  let path := u.path?.getD []
  path != [] && path != memoryName && u.option "mode" != [Text.toPoints "memory"]

/-- The place of a path that may be an address of a file, with the options that belong to it. -/
def ofAddressPath (u : Url) : Except Failure Location :=
  let options := (u.without connectionOptions).options
  match u.path? with
  | some path => .ok (ofMarkedPath (isPooled u) (withFileOptions path options))
  | none => if options.isEmpty then .ok (.unreachable .noPath) else .error .noPathSum

def ofUrl (url : Points) : Except Failure Location := do
  let u ← Url.ofPoints url
  if !(u.option "plugin").isEmpty then .error (.database .unknownKind)
  let u := u.without ["plugin", "plugins"]
  Dialect.check (Text.ofPoints u.scheme)
  if u.namesHost then .error (.database .badAddress)
  let mode ← connectionMode u
  let location ← if mode.address then ofAddressPath u else .ok (ofPlainPath (u.path?.getD []))
  match connectionFault? u mode with
  | some f => .ok (.unreachable f)
  | none => .ok location

end WalletTrust.Store.Location
