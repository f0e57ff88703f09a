import WalletTrust.Http.Message
import WalletTrust.Json.Reader
import WalletTrust.Registry.Command
import WalletTrust.Value.Integer

/-!
# Bodies of requests

A body is read as a document if its content type says so, and then checked field by field. What is
wrong with it is reported as a list of problems in the order of the fields. Where an integer is
asked for, truth values, whole doubles and written integers are taken for one.
-/

namespace WalletTrust.Http

/-- What can be wrong with a body or with a part of it. -/
inductive Problem.Kind where
  | malformed
  | missing
  | noObject
  | noText
  | noStatus
  | noList
  | tooLong (length : Nat)
  | fractional
  | notFinite
  | tooLarge
  | unreadableInteger
  | noInteger

/-- A problem, the place of it within the body, and the value at fault. -/
structure Problem where
  kind : Problem.Kind
  place : List Value := []
  input : Value := .map []

def batchLimit : Nat := 1000

namespace Problem

def code : Kind → String
  | .malformed => "json_invalid"
  | .missing => "missing"
  | .noObject => "model_attributes_type"
  | .noText => "string_type"
  | .noStatus => "enum"
  | .noList => "list_type"
  | .tooLong _ => "too_long"
  | .fractional => "int_from_float"
  | .notFinite => "finite_number"
  | .tooLarge => "int_parsing_size"
  | .unreadableInteger => "int_parsing"
  | .noInteger => "int_type"

def message : Kind → String
  | .malformed => "JSON decode error"
  | .missing => "Field required"
  | .noObject => "Input should be a valid dictionary or object to extract fields from"
  | .noText => "Input should be a valid string"
  | .noStatus => "Input should be 'UNKNOWN', 'ACTIVE', 'BLOCKED' or 'REVIEW'"
  | .noList => "Input should be a valid list"
  | .tooLong length => "List should have at most " ++ toString batchLimit ++
      " items after validation, not " ++ toString length
  | .fractional => "Input should be a valid integer, got a number with a fractional part"
  | .notFinite => "Input should be a finite number"
  | .tooLarge => "Unable to parse input string as an integer, exceeded maximum size"
  | .unreadableInteger =>
    "Input should be a valid integer, unable to parse string as an integer"
  | .noInteger => "Input should be a valid integer"

def fields (p : Problem) : List (Value × Value) :=
  [(.text "type", .text (code p.kind)), (.text "loc", .list (.text "body" :: p.place)),
    (.text "msg", .text (message p.kind)), (.text "input", p.input)]

end Problem

/-- The outcome of a check: all problems, if there are any. -/
abbrev Checked (α : Type) := Except (List Problem) α

def both {α β : Type} (x : Checked α) (y : Checked β) : Checked (α × β) :=
  match x, y with
  | .ok a, .ok b => .ok (a, b)
  | .ok _, .error q => .error q
  | .error p, .ok _ => .error p
  | .error p, .error q => .error (p ++ q)

/-- A fraction of zeros goes; any other stays. -/
def withoutZeroFraction (points : List Nat) : List Nat :=
  let whole := points.takeWhile (· != 0x2e)
  match points.drop whole.length with
  | _ :: 0x30 :: rest => if rest.all (· == 0x30) then whole else points
  | _ => points

/-- What follows a zero in front: underscores are passed over along with zeros, a sign may come
behind them, and the last character in front of a point stays. -/
def afterZero (last : Nat) : List Nat → Option (List Nat)
  | [] => some [last]
  | p :: rest =>
    if p = 0x30 ∨ p = 0x5f then afterZero p rest
    else if Json.isDigit p ∨ p = 0x2d then some (p :: rest)
    else if p = 0x2e then some (last :: p :: rest)
    else none

/-- Digits without the zeros in front, unless the text starts with something else than a digit or a
minus sign. -/
def withoutSpareZeros : List Nat → Option (List Nat)
  | [] => none
  | p :: rest =>
    if p = 0x30 then afterZero p rest
    else if Json.isDigit p ∨ p = 0x2d then some (p :: rest)
    else none

/-- A plus sign in front goes, unless a minus sign follows it. -/
def withoutPlus : List Nat → Option (List Nat)
  | 0x2b :: 0x2d :: _ => none
  | 0x2b :: rest => some rest
  | points => some points

def hasDoubleSeparator : List Nat → Bool
  | 0x5f :: 0x5f :: _ => true
  | _ :: rest => hasDoubleSeparator rest
  | [] => false

/-- Underscores go if none stands at an end or behind another one. -/
def withoutSeparators (points : List Nat) : Option (List Nat) :=
  if points.head? == some 0x5f || points.getLast? == some 0x5f || hasDoubleSeparator points
  then none
  else some (points.filter (· != 0x5f))

/-- A written integer without all that it may have around its sign and its digits. -/
def cleaned? (points : List Nat) : Option (List Nat) := do
  let points ← withoutPlus (Text.trimBy Text.isNumberBlank points)
  let points ← match points with
    | 0x2d :: rest => (withoutSpareZeros rest).map (0x2d :: ·)
    | points => withoutSpareZeros points
  withoutSeparators (withoutZeroFraction points)

def splitMinus : List Nat → Bool × List Nat
  | 0x2d :: rest => (true, rest)
  | points => (false, points)

/-- The integer that a sign and digits write, which have no zero in front and are not too many. -/
def plainInteger? (points : List Nat) : Option Int :=
  let (negative, digits) := splitMinus points
  let isPlain := digits == [0x30] ||
    (digits != [] && digits.head? != some 0x30 && digits.all Json.isDigit &&
      digits.length ≤ Text.digitLimit)
  if isPlain then
    let n := Text.ofDigits (digits.map (· - 0x30))
    some (if negative then -(n : Int) else n)
  else none

/-- Whether a text starts with more digits than an integer may have. -/
def startsTooLong (points : List Nat) : Bool :=
  let digits := (splitMinus points).2.takeWhile Json.isDigit
  digits.head? != some 0x30 && Text.digitLimit < digits.length

/-- The integer that a text writes. It is too large only if its digits come first. -/
def integerOfText (points : List Nat) : Except Problem.Kind Int :=
  if startsTooLong points then .error .tooLarge
  else ((cleaned? points).bind plainInteger?).elim (.error .unreadableInteger) .ok

example : (cleaned? (Text.toPoints " +0_0-_5.0")).bind plainInteger? = some (-5) := by
  decide +kernel

/-- Whole doubles count as integers below this size. -/
abbrev wholeEnd : Nat := 0x8000000000000000

def asInteger (v : Value) : Except Problem.Kind Int :=
  match v with
  | .bool b => .ok (if b then 1 else 0)
  | .int n => .ok n
  | .float (.finite negative m e) =>
    if !Binary64.isWhole m e then .error .fractional
    else
      let whole := Binary64.truncate negative m e
      if whole.natAbs < wholeEnd then .ok whole else .error .tooLarge
  | .float _ => .error .notFinite
  | .text s => integerOfText (Text.toPoints s)
  | .broken points => integerOfText points
  | .status s => integerOfText (Text.toPoints s.name)
  | .bytes data => (Text.utf8From false 0 (data.map UInt8.toNat)).elim (.error .unreadableInteger)
      integerOfText
  | _ => .error .noInteger

def required {α : Type} (entries : List (Value × Value)) (name : String)
    (check : Value → Except Problem.Kind α) : Checked α :=
  match Value.field? name entries with
  | none => .error [{ kind := .missing, place := [.text name], input := .map entries }]
  | some v => (check v).mapError fun kind => [{ kind, place := [.text name], input := v }]

def asText (v : Value) : Except Problem.Kind Value :=
  match v with
  | .text _ => .ok v
  | .broken _ => .ok v
  | _ => .error .noText

/-- A status is asked for by its exact name. -/
def asStatus (v : Value) : Except Problem.Kind Status :=
  match v with
  | .text s => (Status.ofName? s).elim (.error .noStatus) .ok
  | _ => .error .noStatus

def asTexts (name : String) (i : Nat) : List Value → Checked (List Value)
  | [] => .ok []
  | v :: rest =>
    let head := (asText v).mapError fun kind =>
      [{ kind, place := [.text name, .int i], input := v }]
    (both head (asTexts name (i + 1) rest)).map fun (v, rest) => v :: rest

def entriesOf (v : Value) : Checked (List (Value × Value)) :=
  match v with
  | .map entries => .ok entries
  | _ => .error [{ kind := .noObject, input := v }]

def statusCommand (body : Value) : Checked Command := do
  let entries ← entriesOf body
  let ((wallet, status), score) ← both
    (both (required entries "wallet_address" asText) (required entries "status" asStatus))
    (required entries "trust_score" asInteger)
  .ok (.setStatus wallet (.status status) (.int score))

def addressCommand (name : String) (command : Value → Command) (body : Value) :
    Checked Command := do
  let entries ← entriesOf body
  (required entries name asText).map command

def wallets (body : Value) : Checked (List Value) := do
  let name := "wallet_addresses"
  let entries ← entriesOf body
  let v ← required entries name .ok
  match v with
  | .list items =>
    if batchLimit < items.length then
      .error [{ kind := .tooLong items.length, place := [.text name], input := v }]
    else asTexts name 0 items
  | _ => .error [{ kind := .noList, place := [.text name], input := v }]

def isDocumentType (contentType : String) : Bool :=
  let name := (Text.strip (String.ofList (contentType.toList.takeWhile (· != ';')))).toLower.toList
  let main := name.takeWhile (· != '/')
  match name.drop main.length with
  | _ :: sub => main = "application".toList && !sub.contains '/' &&
      (sub = "json".toList || "+json".toList.isSuffixOf sub)
  | [] => false

inductive BodyContent where
  | absent
  | present (v : Value)
  | malformed (position : Nat)
  /-- A document that cannot be read for other reasons than its form. -/
  | unreadable

def bodyContent (r : Request) : BodyContent :=
  if r.body.isEmpty then .absent
  else if isDocumentType r.contentType then
    match Text.documentPoints? (r.body.map UInt8.toNat) with
    | none => .unreadable
    | some points => match Json.read points with
      | .ok v => .present v
      | .error (.unexpected position) => .malformed position
      | .error .excessive => .unreadable
  else .present (.bytes r.body)

end WalletTrust.Http
