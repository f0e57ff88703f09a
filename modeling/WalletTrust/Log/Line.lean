import WalletTrust.Json.Writer
import WalletTrust.Log.Threshold

/-!
# Lines of a log

A call to a logger is written as a document on one line, or in columns for readers at a console.
Fields stand in the order in which they were first named; the level, the time and the event
overwrite what a caller put in their places.
-/

namespace WalletTrust.Log

/-- A call to a logger: an event, which is null if there is none, and its context. -/
structure Call where
  level : Level
  event : Value
  context : List (Value × Value) := []

def isNamed (name : String) (field : Value × Value) : Bool := (Value.text name).same field.1

def callFields (logger : Value) (timestamp : String) (c : Call) : List (Value × Value) :=
  let context := c.context.filter fun field => !isNamed "exc_info" field
  let named := context.foldl (fun fields (name, v) => Value.setField name v fields)
    [(.text "logger", logger)]
  Value.setField (.text "timestamp") (.text timestamp)
    (Value.setField (.text "level") (.text c.level.name) named)

/-- A call as a document, which needs an event and values that have documents. -/
def document (logger : Value) (timestamp : String) (c : Call) : Except Failure Text.Points :=
  match c.event with
  | .null => .error .noEntry
  | event =>
    let record := .map (Value.setField (.text "event_type") event (callFields logger timestamp c))
    (Json.check record).map fun _ => Text.toPoints (Json.write record)

/-- Texts that hold one of these are quoted in columns: blanks, quotes and the equals sign. -/
def needsQuotes (point : Nat) : Bool := point ∈ [0x20, 9, 0x3d, 0xd, 0xa, 0x22, 0x27]

/-- A string in columns: it stands as it is unless it has to be quoted. -/
def columnText (points : Text.Points) (literal : String) : Text.Points :=
  if points.any needsQuotes then Text.toPoints literal else points

def columnValue (v : Value) : Text.Points :=
  match v with
  | .text s => columnText (Text.toPoints s) v.literal
  | .broken points => columnText points v.literal
  | .status s => Text.toPoints s.name
  | v => Text.toPoints v.literal

def padded (width : Nat) (points : Text.Points) : Text.Points :=
  points ++ List.replicate (width - points.length) 0x20

def inBrackets (points : Text.Points) : Text.Points := 0x5b :: points ++ [0x5d]

/-- Fields that have a column of their own, in the order of the columns. -/
def columns : List (String × (Value → Text.Points)) :=
  [("", fun v => 0x3d :: columnValue v), ("timestamp", Value.display),
    ("level", fun v => inBrackets (padded 9 v.display)), ("event", fun v => padded 30 v.display),
    ("logger", fun v => inBrackets v.display), ("logger_name", fun v => inBrackets v.display)]

/-- Fields that follow the line on lines of their own. -/
def trailers : List String := ["stack", "exception"]

def fieldOf (name : String) (fields : List (Value × Value)) : Value :=
  (Value.field? name fields).getD .null

def ownColumns (fields : List (Value × Value)) : List Text.Points :=
  columns.filterMap fun (name, shown) => (Value.field? name fields).map shown

def otherColumns (fields : List (Value × Value)) : List Text.Points :=
  let others := fields.filter fun field =>
    !(columns.map (·.1) ++ trailers).any fun name => isNamed name field
  (others.mergeSort fun a b => Text.notAfter a.1.display b.1.display).map fun (name, v) =>
    name.display ++ 0x3d :: columnValue v

/-- What follows a line if a value is given for it. Only strings can. -/
def trailer (v : Value) : Except Failure Text.Points :=
  match v with
  | .text s => .ok (0xa :: Text.toPoints s)
  | .broken points => .ok (0xa :: points)
  | .status s => .ok (0xa :: Text.toPoints s.name)
  | .null => .ok []
  | v => .error (.noTextSum v.kind)

/-- A rule between the stack and the exception of a call. -/
def rule : Text.Points := [0xa, 0xa] ++ List.replicate 79 0x3d ++ [0xa]

def isNull : Value → Bool
  | .null => true
  | _ => false

def trailing (stack exception : Value) : Except Failure Text.Points := do
  let first ← trailer stack
  let second ← trailer exception
  .ok (first ++ (if isNull stack || isNull exception then [] else rule) ++ second)

/-- The fields of a call in columns: time, level, event, logger, and then the context by name. -/
def columnFields (fields : List (Value × Value)) : Text.Points :=
  let parts := (ownColumns fields ++ otherColumns fields).filter (· ≠ [])
  let line := List.intercalate [0x20] parts
  (line.reverse.dropWhile (· == 0x20)).reverse

/-- A call in columns, in which integers of too many digits cannot stand. -/
def columnLine (logger : Value) (timestamp : String) (c : Call) : Except Failure Text.Points :=
  let fields := callFields logger timestamp c ++
    if isNull c.event then [] else [(.text "event", c.event)]
  if Value.haveWritable fields then
    (trailing (fieldOf "stack" fields) (fieldOf "exception" fields)).map (columnFields fields ++ ·)
  else .error .integerTooLong

inductive Format where
  | document
  | columns
  deriving DecidableEq, Repr

def Format.ofName (s : String) : Format := if s = "json" then .document else .columns

def Call.written (format : Format) (logger : Value) (timestamp : String) (c : Call) :
    Except Failure Text.Points :=
  match format with
  | .document => document logger timestamp c
  | .columns => columnLine logger timestamp c

def Entry.call (e : Entry) : Call :=
  ⟨e.level, .text e.event, e.fields.map Json.named⟩

/-- Goes through only if an entry can be written, whatever the time is. -/
def Entry.check (e : Entry) : Except Failure Unit :=
  (document (.text e.source.name) "" e.call).map fun _ => ()

end WalletTrust.Log

namespace WalletTrust

/-- Logs an entry that may hold any values, and fails if it cannot be written. Documents are written
from the level of information on, so that this is about entries from there on. -/
def Logged.report (e : Log.Entry) : Logged Unit :=
  match e.check with
  | .ok () => .tell [e]
  | .error f => .fail f

end WalletTrust
