import WalletTrust.Arguments
import WalletTrust.Log.Line
import WalletTrust.Value.Real

/-!
# Methods of a logger

A logger is called by the name of one of its methods, with an event and with context by name. A
call whose arguments clash fails even if its entry would not be written; one that is left to be
carried out later is never written.
-/

namespace WalletTrust.Log

inductive Method where
  /-- Logs at a level. -/
  | level (l : Level)
  /-- Logs at no level, which nothing can be written at. -/
  | unset
  /-- Logs the failure that is being handled as an error. -/
  | exception
  /-- Logs at the level that it is given first. -/
  | chosen
  /-- Is left to be carried out later. -/
  | deferred (m : Method)
  /-- Makes another logger; it takes no event. -/
  | derived (name : String)
  /-- Makes another logger without one of the fields, which has to be there if `strict` holds. -/
  | unbound (strict : Bool)
  /-- Says whether entries of a level would be written. -/
  | enabled
  /-- Tells the threshold. -/
  | effective
  /-- A part of the logger that is no operation. -/
  | part (kind : String)
  deriving Repr

namespace Method

/-- The method that carries out a call at once. -/
def direct? : String → Option Method
  | "debug" => some (.level .debug)
  | "info" => some (.level .info)
  | "msg" => some (.level .info)
  | "warning" => some (.level .warning)
  | "warn" => some (.level .warning)
  | "error" => some (.level .error)
  | "critical" => some (.level .critical)
  | "fatal" => some (.level .critical)
  | "notset" => some .unset
  | "exception" => some .exception
  | "log" => some .chosen
  | _ => none

/-- The method of a name. The names of methods that are left for later have an `a` in front. -/
def ofName? (name : String) : Option Method :=
  match direct? name with
  | some m => some m
  | none => match name.toList with
    | 'a' :: rest => (direct? (String.ofList rest)).map .deferred
    | _ => other? name
where
  other? : String → Option Method
    | "bind" => some (.derived "bind")
    | "new" => some (.derived "new")
    | "unbind" => some (.unbound true)
    | "try_unbind" => some (.unbound false)
    | "is_enabled_for" => some .enabled
    | "get_effective_level" => some .effective
    | "_context" => some (.part "dict")
    | "_processors" => some (.part "list")
    | "_logger" => some (.part "PrintLogger")
    | _ => none

def rank : Method → Nat
  | .level l => l.rank
  | .exception => Level.error.rank
  | .deferred m => m.rank
  | _ => 0

def callName (t : Threshold) : Method → String
  | .level l => if t.admits l then maker ++ "make_method.<locals>.meth" else "_nop"
  | .unset => if t.rank = 0 then maker ++ "make_method.<locals>.meth" else "_nop"
  | .exception => "exception"
  | .chosen => maker ++ "log"
  | .deferred .exception => "aexception"
  | .deferred .chosen => maker ++ "alog"
  | .deferred m => if t.rank ≤ m.rank then maker ++ "make_method.<locals>.ameth" else "_anop"
  | .derived name => "BoundLoggerBase." ++ name
  | .unbound strict => "BoundLoggerBase." ++ if strict then "unbind" else "try_unbind"
  | .enabled => maker ++ "<lambda>"
  | .effective => maker ++ "<lambda>"
  | .part kind => kind
where
  maker : String := "_make_filtering_bound_logger.<locals>."

def takesLevel : Method → Bool
  | .chosen => true
  | .deferred m => m.takesLevel
  | _ => false

def signature (t : Threshold) (m : Method) : Signature :=
  { call := m.callName t
    parameters := match m with
      | .derived _ => []
      | .unbound _ => []
      | .enabled => ["level"]
      | .effective => []
      | m => if m.takesLevel then ["level", "event"] else ["event"] }

/-- The first name in a context that stands for one of these parameters. -/
def clash? (parameters : List String) (context : List (Value × Value)) : Option String :=
  context.findSome? fun field => parameters.find? fun name => isNamed name field

/-- Goes through only if no name in a context stands for a parameter that has its value. -/
def checkClash (s : Signature) (context : List (Value × Value)) : Except Failure Unit :=
  match clash? (Signature.object :: s.parameters.take 1) context with
  | some parameter => .error (s.repeated parameter)
  | none => .ok ()

/-- Goes through only if a context is empty, where nothing is taken by name. -/
def checkUnnamed (s : Signature) (context : List (Value × Value)) : Except Failure Unit :=
  match context with
  | (.text name, _) :: _ =>
    .error (if name ∈ Signature.object :: s.parameters then s.repeated name else s.unexpected name)
  | _ => .ok ()

def writer : Signature :=
  { call := "BoundLoggerBase._proxy_to_logger", parameters := ["method_name"] }

/-- Goes through only if the writer can take a context over. -/
def checkWriter (context : List (Value × Value)) : Except Failure Unit :=
  match clash? writer.parameters context with
  | some parameter => .error (writer.repeated parameter)
  | none => .ok ()

def levelOfRank? (rank : Int) : Option Level :=
  [Level.debug, .info, .warning, .error, .critical].find? fun l => (l.rank : Int) == rank

/-- The rank that a value is as a level, if it is an integer. -/
def rankOf (v : Value) : Except Failure (Option Int) :=
  match v with
  | .bool b => .ok (some (if b then 1 else 0))
  | .int n => .ok (some n)
  | .float x => .ok x.toInt?
  | v => .error (.noOrder "<" v.kind)

def checkOrdered (v : Value) : Except Failure Unit :=
  match v with
  | .bool _ => .ok ()
  | .int _ => .ok ()
  | .float _ => .ok ()
  | v => .error (.noOrder ">=" v.kind)

def isBelow (t : Threshold) (v : Value) : Bool :=
  match v with
  | .float x => !(Binary64.ofInt t.rank).le x && x.le (.ofInt t.rank)
  | .bool b => decide ((if b then 1 else 0) < t.rank)
  | .int n => decide (n < t.rank)
  | _ => false

end Method

/-- A logger: what it writes, how, and in whose name. -/
structure Logger where
  threshold : Threshold
  format : Format
  name : Value
  timestamp : String

namespace Logger

def noMethod (l : Logger) (name : Value) : Failure :=
  .noAttribute ("BoundLoggerFilteringAt" ++ l.threshold.name) name

def write (l : Logger) (level : Level) (event : Value) (context : List (Value × Value)) :
    Except Failure (Option Text.Points) :=
  if l.threshold.admits level then do
    Method.checkWriter context
    let line ← (Call.mk level event context).written l.format l.name l.timestamp
    .ok (some line)
  else .ok none

/-- Tries to write at no level: a line is made, but nothing takes it. -/
def writeUnset (l : Logger) (event : Value) (context : List (Value × Value)) :
    Except Failure (Option Text.Points) :=
  if l.threshold.rank = 0 then do
    let _ ← l.write .debug event context
    .error (.noAttribute "PrintLogger" (.text "notset"))
  else .ok none

/-- Writes at the level that a value is, with an event that the context names. -/
def writeChosen (l : Logger) (level event : Value) (context : List (Value × Value)) :
    Except Failure (Option Text.Points) := do
  let rank? ← Method.rankOf level
  if Method.isBelow l.threshold level then .ok none
  else match rank? with
    | some 0 => l.writeUnset event context
    | some rank => match Method.levelOfRank? rank with
      | some level => l.write level event context
      | none => .error .noEntry
    | none => .error .noEntry

/-- Removes a field. The only one that a logger has from the start is its name. -/
def unbind (strict : Bool) (field : Value) : Except Failure Unit :=
  match field.unkeyable? with
  | some kind => .error (.noKey kind)
  | none => if strict && !(Value.text "logger").same field then .error .noEntry else .ok ()

/-- Carries out a method that writes. `given` is its value by position: a level if it takes one,
else an event. -/
def performWriting (l : Logger) (m : Method) (given : Value) (context : List (Value × Value)) :
    Except Failure (Option Text.Points) := do
  let s := m.signature l.threshold
  Method.checkClash s context
  let event? := if m.takesLevel then Value.field? "event" context else some given
  match event? with
  | none => .error (.arguments (s.lackMessage ["event"]))
  | some event => match m with
    | .level level => l.write level event context
    | .exception => l.write .error event context
    | .unset => l.writeUnset event context
    | .chosen => l.writeChosen given event (context.filter fun field => !isNamed "event" field)
    | _ => .ok none

def perform (l : Logger) (m : Method) (given : Value) (context : List (Value × Value)) :
    Except Failure (Option Text.Points) := do
  let s := m.signature l.threshold
  match m with
  | .derived _ => do
    Method.checkClash s context
    s.check 1
    .ok none
  | .unbound strict => do
    Method.checkUnnamed s context
    unbind strict given
    .ok none
  | .enabled => do
    Method.checkUnnamed s context
    Method.checkOrdered given
    .ok none
  | .effective => do
    Method.checkUnnamed s context
    s.check 1
    .ok none
  | .part kind => .error (.noCall kind)
  | m => l.performWriting m given context

def call (l : Logger) (method given : Value) (context : List (Value × Value)) :
    Except Failure (Option Text.Points) :=
  match method with
  | .text name => match Method.ofName? name with
    | some m => l.perform m given context
    | none => .error (l.noMethod method)
  | .broken _ => .error (l.noMethod method)
  | method => .error (.noName method.kind)

/-- What a logger writes for calls by name, one after another, each on a line of its own. -/
def output (l : Logger) : List (Value × Value × List (Value × Value)) → Except Failure Text.Points
  | [] => .ok []
  | (method, given, context) :: calls => do
    let line? ← l.call method given context
    let rest ← l.output calls
    match line? with
    | some line => .ok (line ++ 0xa :: rest)
    | none => .ok rest

def entry (l : Logger) (e : Entry) : Except Failure (Option Text.Points) :=
  let c := e.call
  l.write c.level c.event c.context

end Logger
end WalletTrust.Log
