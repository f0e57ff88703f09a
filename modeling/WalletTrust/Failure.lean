import WalletTrust.Value.Literal

/-!
# Causes of failure

An operation that fails says why. The domain's own failures carry a code and the values that led
to them; the others arise where a value of the wrong kind is converted, or where a clock, an
observer or a database fails.
-/

namespace WalletTrust

inductive DatabaseFailure where
  /-- A table or the file itself is missing. -/
  | missing
  /-- A row breaks a constraint of its table. -/
  | constraint
  /-- A value of this kind cannot be stored. -/
  | unstorable
  /-- The address of the database cannot be read. -/
  | badAddress
  /-- The address names a kind of database that is not known. -/
  | unknownKind
  /-- The kind of database is known, but its driver is not there. -/
  | noDriver
  /-- The database may be read but not written. -/
  | readOnly
  /-- A file is there but holds something else. -/
  | noDatabase
  /-- A stored text has bytes that are no text. -/
  | badText
  deriving DecidableEq, Repr

inductive Failure where
  /-- A failure of the domain that none of the next three describes. -/
  | general (message code : Value)
  | invalidAddress (address message : Value)
  | invalidStatus (value : Value)
  | unauthorized (caller operation : Value)
  /-- A string or bytes that spell no integer. -/
  | notInteger (value : Value)
  /-- An integer whose digits are too many to be read. -/
  | tooManyDigits (count : Nat)
  /-- An integer whose digits are too many to be written. -/
  | integerTooLong
  | integerOfNan
  | integerOfInfinity
  /-- A value of a kind that has no integer. -/
  | noInteger (kind : String)
  /-- A string or bytes that spell no real number. -/
  | notReal (value : Value)
  /-- A value of a kind that is no real number. -/
  | noReal (kind : String)
  /-- An integer beyond the largest double. -/
  | realTooLarge
  /-- Addition of a double and a value of another kind. -/
  | noSum (kind : String)
  /-- A value that is none of the named choices. -/
  | noChoice (value : Value) (choices : String)
  /-- A value of a kind that cannot be a key. -/
  | noKey (kind : String)
  /-- A value of a kind that has no length. -/
  | noLength (kind : String)
  /-- A value to which a text cannot be appended. -/
  | noAppend (kind : String)
  /-- A value that cannot be appended to a text. -/
  | noTextSum (kind : String)
  /-- A value of a kind that has no items. -/
  | noItems (kind : String)
  /-- A value that cannot be compared with an integer. -/
  | noOrder (comparison kind : String)
  /-- A value of a kind that is no operation. -/
  | noCall (kind : String)
  /-- A value of another kind where a text is asked for. -/
  | noText (kind : String)
  /-- A call whose arguments do not fit. -/
  | arguments (message : String)
  | noAttribute (kind : String) (member : Value)
  /-- A value of another kind than a text where the name of something is asked for. -/
  | noName (kind : String)
  /-- A part of the program that offers no dialect of a database. -/
  | noDialect (owner : String)
  /-- A name under which a table holds nothing. -/
  | noEntry
  /-- A text with a character of code zero, where none may be. -/
  | zeroByte
  /-- A name that no variable of an environment can have. -/
  | badVariable
  /-- A variable without a name. -/
  | noVariable
  /-- A text that is neither yes nor no. -/
  | noTruth (value : Value)
  /-- The address of a database that names more than one driver. -/
  | manyDrivers
  /-- The address of a database that announces a port and names none. -/
  | noPort
  /-- The address of a database without a path where one is asked for. -/
  | noPath
  /-- A path of a database to which nothing can be added, because there is none. -/
  | noPathSum
  /-- A way to separate transactions that a database does not know. -/
  | badIsolation
  | clockFailed
  /-- A failure that an observer raises by itself, which is known by a string. -/
  | observerFailed (message : Text.Points)
  /-- A decision that nobody provides. -/
  | notProvided
  /-- An integer that does not fit where it is handed over to. -/
  | integerTooWide (target : String)
  /-- A text that cannot be encoded. -/
  | notEncodable
  /-- A number that a document cannot hold. -/
  | notWritable
  /-- A value of a kind that no entry of a document can have for its name. -/
  | noEntryName (kind : String)
  /-- An answer that breaks its own format. -/
  | badAnswer
  /-- An answer with a text that cannot be encoded. -/
  | badAnswerText
  /-- A request whose bytes are no text. -/
  | notText
  | database (cause : DatabaseFailure)
  /-- The program ends with a code. -/
  | exit (code : Nat)
  | noRegistry

namespace Failure

/-- What the text of an unreadable number shows of it. -/
def excerpt : Value → String
  | .bytes data => ((Value.bytes (data.take 200)).literal.take 200).toString
  | v => (v.literal.take 200).toString

/-- The message, which need not be a text where a caller supplied it. -/
def message : Failure → Value
  | .general message _ => message
  | .invalidAddress _ message => message
  | .invalidStatus value => .text ("Invalid auth status: " ++ value.literal)
  | .unauthorized _ operation =>
    .ofPoints (Text.toPoints "Caller not authorized for " ++ operation.display)
  | .notInteger value => .text ("invalid literal for int() with base 10: " ++ excerpt value)
  | .tooManyDigits count =>
    .text ("Exceeds the limit (4300 digits) for integer string conversion: value has " ++
      toString count ++ " digits; use sys.set_int_max_str_digits() to increase the limit")
  | .integerTooLong =>
    .text ("Exceeds the limit (4300 digits) for integer string conversion; " ++
      "use sys.set_int_max_str_digits() to increase the limit")
  | .integerOfNan => .text "cannot convert float NaN to integer"
  | .integerOfInfinity => .text "cannot convert float infinity to integer"
  | .noInteger kind => .text ("int() argument must be a string, a bytes-like object or a real " ++
      "number, not '" ++ kind ++ "'")
  | .notReal value => .text ("could not convert string to float: " ++ value.literal)
  | .noReal kind =>
    .text ("float() argument must be a string or a real number, not '" ++ kind ++ "'")
  | .realTooLarge => .text "int too large to convert to float"
  | .noSum kind => .text ("unsupported operand type(s) for +=: 'float' and '" ++ kind ++ "'")
  | .noChoice value choices => .text (value.literal ++ " is not a valid " ++ choices)
  | .noKey kind => .text ("unhashable type: '" ++ kind ++ "'")
  | .noLength kind => .text ("object of type '" ++ kind ++ "' has no len()")
  | .noAppend kind => .text (if kind = "bytes" then "can't concat str to bytes"
      else "can only concatenate " ++ kind ++ " (not \"str\") to " ++ kind)
  | .noTextSum kind => .text ("can only concatenate str (not \"" ++ kind ++ "\") to str")
  | .noItems kind => .text ("'" ++ kind ++ "' object is not iterable")
  | .noOrder comparison kind => .text ("'" ++ comparison ++ "' not supported between instances of '"
      ++ kind ++ "' and 'int'")
  | .noCall kind => .text ("'" ++ kind ++ "' object is not callable")
  | .noText kind => .text ("str expected, not " ++ kind)
  | .arguments message => .text message
  | .noAttribute kind member =>
    .ofPoints (Text.toPoints ("'" ++ kind ++ "' object has no attribute '") ++ member.display ++
      Text.toPoints "'")
  | .noName kind => .text ("attribute name must be string, not '" ++ kind ++ "'")
  | .noDialect owner => .text (owner ++ " has no attribute 'dialect'")
  | .zeroByte => .text "embedded null byte"
  | .badVariable => .text "illegal environment variable name"
  | .noTruth value => .text ("String is not true/false: " ++ value.literal)
  | .manyDrivers => .text "too many values to unpack (expected 2)"
  | .noPort => .text "Port argument must be an integer or None"
  | .noPath => .text "expected str, bytes or os.PathLike object, not NoneType"
  | .noPathSum => .text "unsupported operand type(s) for +=: 'NoneType' and 'str'"
  | .badIsolation =>
    .text "isolation_level string must be '', 'DEFERRED', 'IMMEDIATE', or 'EXCLUSIVE'"
  | .clockFailed => .text "clock failed"
  | .observerFailed message => .ofPoints message
  | .noEntryName kind =>
    .text ("keys must be str, int, float, bool or None, not " ++ kind)
  | .integerTooWide target => .text ("Python int too large to convert to " ++ target)
  | .exit code => .text (toString code)
  | _ => .text ""

/-- The message as a string. A message that shows an integer of too many digits has none. -/
def shown (f : Failure) : Except Failure Value :=
  if f.message.isWritable then .ok f.message.displayed else .error .integerTooLong

def code? : Failure → Option Value
  | .general _ code => some code
  | .invalidAddress _ _ => some (.text "INVALID_ADDRESS")
  | .invalidStatus _ => some (.text "INVALID_STATUS")
  | .unauthorized _ _ => some (.text "UNAUTHORIZED")
  | _ => none

def body (f : Failure) : List (Value × Value) :=
  [(.text "error", f.code?.getD .null), (.text "message", f.message)] ++
    match f with
    | .unauthorized _ operation => [(.text "operation", operation)]
    | _ => []

/-- A failure whose message shows a value. It cannot be made if the value cannot be written. -/
def showing (value : Value) (f : Failure) : Failure :=
  if value.isWritable then f else .integerTooLong

/-- The failure of a value that is read as a status and is none. -/
def notStatus (value : Value) : Failure := showing value (.invalidStatus value)

def generalCode : Value := .text "TURBOAUTH_ERROR"

end Failure
end WalletTrust
