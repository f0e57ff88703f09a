import WalletTrust.Log.Entry

/-!
# Thresholds of a log

A threshold is named like a level. A name that nobody knows means `INFO`, but one that the logging
system uses for something else is refused.
-/

namespace WalletTrust.Log

/-- The least level that is written, or none if every level is. -/
abbrev Threshold := Option Level

namespace Threshold

def rank : Threshold → Nat
  | none => 0
  | some level => level.rank

/-- What a logger with this threshold calls it. -/
def name : Threshold → String
  | none => "Notset"
  | some .debug => "Debug"
  | some .info => "Info"
  | some .warning => "Warning"
  | some .error => "Error"
  | some .critical => "Critical"

def admits (t : Threshold) (level : Level) : Bool := t.rank ≤ level.rank

/-- Names of parts of the logging system that are no levels. -/
def takenNames : List String :=
  [
    "BASIC_FORMAT", "BufferingFormatter", "FileHandler", "Filter", "Filterer", "Formatter",
    "GenericAlias", "Handler", "LogRecord", "Logger", "LoggerAdapter", "Manager", "NullHandler",
    "PercentStyle", "PlaceHolder", "RootLogger", "StrFormatStyle", "StreamHandler",
    "StringTemplateStyle", "Template", "_StderrHandler", "__author__", "__cached__",
    "__class__", "__date__", "__delattr__", "__dir__", "__doc__", "__eq__", "__file__",
    "__format__", "__ge__", "__getattribute__", "__getstate__", "__gt__", "__hash__",
    "__init__", "__init_subclass__", "__le__", "__loader__", "__lt__", "__name__", "__ne__",
    "__new__", "__package__", "__reduce__", "__reduce_ex__", "__repr__", "__setattr__",
    "__sizeof__", "__status__", "__str__", "__subclasshook__", "__version__", "_acquireLock",
    "_addHandlerRef", "_after_at_fork_child_reinit_locks", "_checkLevel", "_defaultFormatter",
    "_defaultLastResort", "_is_internal_frame", "_lock", "_logRecordFactory", "_loggerClass",
    "_register_at_fork_reinit_lock", "_releaseLock", "_removeHandlerRef", "_showwarning",
    "_srcfile", "_startTime", "_str_formatter", "_warnings_showwarning", "addLevelName",
    "atexit", "basicConfig", "captureWarnings", "collections", "critical", "currentframe",
    "debug", "disable", "error", "exception", "fatal", "getLevelName", "getLevelNamesMapping",
    "getLogRecordFactory", "getLogger", "getLoggerClass", "info", "io", "lastResort", "log",
    "logMultiprocessing", "logProcesses", "logThreads", "makeLogRecord", "os",
    "raiseExceptions", "re", "root", "setLogRecordFactory", "setLoggerClass", "shutdown", "sys",
    "threading", "time", "traceback", "warn", "warning", "warnings", "weakref"]

/-- Names of parts that cannot even be looked up among the levels, with the kinds of them. -/
def unkeyableNames : List (String × String) :=
  [
    ("_STYLES", "dict"), ("__all__", "list"), ("__annotations__", "dict"), ("__builtins__", "dict"),
    ("__dict__", "dict"), ("__path__", "list"), ("__spec__", "ModuleSpec"),
    ("_at_fork_reinit_lock_weakset", "WeakSet"), ("_handlerList", "list"),
    ("_handlers", "WeakValueDictionary"), ("_levelToName", "dict"), ("_nameToLevel", "dict")]

def ofName (s : String) : Except Failure Threshold :=
  match s with
  | "NOTSET" => .ok none
  | "DEBUG" => .ok (some .debug)
  | "INFO" => .ok (some .info)
  | "WARNING" => .ok (some .warning)
  | "WARN" => .ok (some .warning)
  | "ERROR" => .ok (some .error)
  | "CRITICAL" => .ok (some .critical)
  | "FATAL" => .ok (some .critical)
  | s => match unkeyableNames.find? (·.1 == s) with
    | some (_, kind) => .error (.noKey kind)
    | none => if s ∈ takenNames then .error .noEntry else .ok (some .info)

def ofValue : Value → Except Failure Threshold
  | .text s => ofName s
  | .broken _ => .ok (some .info)
  | v => .error (.noName v.kind)

end Threshold
end WalletTrust.Log
