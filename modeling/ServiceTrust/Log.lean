import ServiceTrust.Json.Basic
import ServiceTrust.Text.Quoted

/-!
Log records, the level below which they are dropped, and the set-up of the log.
-/
namespace ServiceTrust

inductive Level where
  | debug
  | info
  | warning
  | error
  deriving DecidableEq, Repr

def Level.name : Level → String
  | debug => "DEBUG"
  | info => "INFO"
  | warning => "WARNING"
  | error => "ERROR"

def Level.number : Level → Nat
  | debug => 10
  | info => 20
  | warning => 30
  | error => 40

structure LogRecord where
  level : Level
  message : String
  fields : List (String × Json) := []
  deriving Repr

/-- Names of the levels that the log can be set to. -/
def levelNumbers : List (String × Nat) :=
  [("CRITICAL", 50), ("FATAL", 50), ("ERROR", 40), ("WARN", 30), ("WARNING", 30), ("INFO", 20),
    ("DEBUG", 10), ("NOTSET", 0)]

/-- Names of switches of the log, which count as levels where a handler is made, but not where the
log is set to a level. -/
def levelSwitches : List String :=
  ["logMultiprocessing", "logProcesses", "logThreads", "raiseExceptions"]

/-- Names of texts of the log, which a handler takes for the name of its level. The last five are texts of
the installation, for which their names stand here. -/
def levelTexts : List (String × String) :=
  [("BASIC_FORMAT", "%(levelname)s:%(name)s:%(message)s"), ("__name__", "logging"),
    ("__package__", "logging"), ("__status__", "production"), ("__version__", "0.5.1.2"),
    ("__date__", "07 February 2010"), ("__doc__", "__doc__"), ("__author__", "__author__"),
    ("__file__", "__file__"), ("__cached__", "__cached__"), ("_srcfile", "_srcfile")]

/-- Names of other things of the log, which cannot be levels. -/
def levelOthers : List String :=
  ["BufferingFormatter", "FileHandler", "Filter", "Filterer", "Formatter", "GenericAlias",
    "Handler", "LogRecord", "Logger", "LoggerAdapter", "Manager", "NullHandler", "PercentStyle",
    "PlaceHolder", "RootLogger", "StrFormatStyle", "StreamHandler", "StringTemplateStyle",
    "Template", "_STYLES", "_StderrHandler", "__all__", "__builtins__", "__loader__", "__path__",
    "__spec__", "__annotations__", "__class__", "__delattr__", "__dict__", "__dir__", "__eq__", "__format__", "__ge__",
    "__getattribute__", "__getstate__", "__gt__", "__hash__", "__init__", "__init_subclass__",
    "__le__", "__lt__", "__ne__", "__new__", "__reduce__", "__reduce_ex__", "__repr__",
    "__setattr__", "__sizeof__", "__str__", "__subclasshook__", "_acquireLock",
    "_addHandlerRef", "_after_at_fork_child_reinit_locks", "_at_fork_reinit_lock_weakset",
    "_checkLevel", "_defaultFormatter", "_defaultLastResort", "_handlerList", "_handlers",
    "_is_internal_frame", "_levelToName", "_lock", "_logRecordFactory", "_loggerClass",
    "_nameToLevel", "_register_at_fork_reinit_lock", "_releaseLock", "_removeHandlerRef",
    "_showwarning", "_startTime", "_str_formatter", "_warnings_showwarning",
    "addLevelName", "atexit", "basicConfig", "captureWarnings", "collections", "critical",
    "currentframe", "debug", "disable", "error", "exception", "fatal", "getLevelName",
    "getLevelNamesMapping", "getLogRecordFactory", "getLogger", "getLoggerClass", "info", "io",
    "lastResort", "log", "makeLogRecord", "os", "re", "root", "setLogRecordFactory",
    "setLoggerClass", "shutdown", "sys", "threading", "time", "traceback", "warn", "warning",
    "warnings", "weakref"]

/-- What the log writes to, a handler of its own and the error stream once it is set up, and the
records that it took. -/
structure Log where
  handlers : Nat := 0
  threshold : Nat := 30
  records : List LogRecord := []
  deriving Repr

namespace Log

/-- Appends a record whose level is not below the threshold. -/
def add (l : Log) (r : LogRecord) : Log :=
  if l.threshold ≤ r.level.number then { l with records := l.records ++ [r] } else l

/-- Why a level is not taken. -/
inductive Fault where
  | unknownName (level : String)
  | unknownLevel (level : String)
  | notALevel (level : String)
  deriving DecidableEq, Repr

def Fault.message : Fault → String
  | unknownName level => s!"module 'logging' has no attribute '{level}'"
  | unknownLevel level => s!"Unknown level: {Text.quoted level}"
  | notALevel level => s!"Level not an integer or a valid string: {level}"

/-- Sets the threshold to the level of a name. -/
def setLevel (l : Log) (level : String) : Log × Except Fault Unit :=
  match levelNumbers.lookup level with
  | some n => ({ l with threshold := n }, .ok ())
  | none => (l, .error (.unknownLevel level))

/-- Sets up the handlers, the first time, and the threshold. The first handler stays if the
threshold is refused after it. -/
def setUp (l : Log) (level : String) : Log × Except Fault Unit :=
  if l.handlers ≠ 0 then l.setLevel level
  else if levelOthers.contains level then (l, .error (.notALevel level))
  else
    match levelTexts.lookup level with
    | some text => (l, .error (.unknownLevel text))
    | none =>
      if (levelNumbers.lookup level).isSome || levelSwitches.contains level then
        match { l with handlers := 1 }.setLevel level with
        | (l, .ok ()) => ({ l with handlers := 2 }, .ok ())
        | refused => refused
      else (l, .error (.unknownName level))

end Log

end ServiceTrust
