import KitServer.Log.Define
import KitServer.Log.Formatter

/-!
# `Logger`, `LogAppender` and `LogManager`

* `LogAppender`, `Logger`   the objects and the functions that change them;
* `LogManager`              the loggers by their names;
* `LogManager.written`      the appenders that write an event.

An appender belongs to the logger it was added to.  Every function is one section under its lock.
-/

set_option linter.unusedVariables false

namespace KitServer
namespace Log
open Http

/-- the class of an appender, with what its constructor was given -/
inductive AppenderClass where
  | stdout
  | file (filename : Str)
deriving DecidableEq

structure LogAppender where
  cls : AppenderClass
  level : Level
  formatter : Option LogFormatter := none
  is_set_formatter : Bool := false
deriving DecidableEq

def LogAppender.setFormatter (a : LogAppender) (val : Option LogFormatter) : LogAppender :=
  { a with formatter := val, is_set_formatter := val.isSome }

structure Logger where
  name : Str
  level : Level
  appenders : List LogAppender
  formatter : LogFormatter
  /-- whether there is a `default_root` -/
  default_root : Bool
deriving DecidableEq

/-- `LogLevel` of an event that is logged -/
def LogLevel.all : List Level :=
  [LogLevel.UNKNOW, LogLevel.DEBUG, LogLevel.INFO, LogLevel.WARN, LogLevel.ERROR, LogLevel.FATAL]

def defaultPattern : Str := asc "[%p]%T<%f:%l>%T%d\x7b%Y-%m-%d %H:%M:%S\x7d%T%t(%tn)%T%c%T%g%T%m%n"

namespace Logger

/-- a logger that `getLogger` makes -/
def new (name : Str) : Logger :=
  { name, level := LogLevel.DEBUG, appenders := [], formatter := ⟨defaultPattern⟩
    default_root := true }

variable (l : Logger)

def setLevel (level : Level) : Logger := { l with level }

/-- an appender without a formatter gets that of the logger -/
def addAppender (appender : LogAppender) : Logger :=
  { l with
    appenders := l.appenders ++
      [if appender.formatter.isNone then appender.setFormatter (some l.formatter)
        else appender] }

def clearAppender : Logger := { l with appenders := [] }

/-- nothing is set if the pattern has an error -/
def setFormatter (val : Str) : Logger :=
  let new_value : LogFormatter := ⟨val⟩
  if new_value.isError then l
  else
    { l with
      formatter := new_value
      appenders := l.appenders.map fun x =>
        if x.is_set_formatter then x else x.setFormatter (some new_value) }

end Logger

/-- `s_loggers`; the root is the logger of the name `root` -/
abbrev LogManager := Str → Option Logger

namespace LogManager
variable (m : LogManager)

def getLogger (name : Str) : Logger := (m name).getD (Logger.new name)

/-- the appenders of a logger that write an event of the level -/
def ownWritten (l : Logger) (level : Level) : List LogAppender :=
  l.appenders.filter fun a => a.level ≤ level

/-- the appenders that write an event of the level that is logged to the logger: those of the root
if the logger has none -/
def written (l : Logger) (level : Level) : List LogAppender :=
  if l.level ≤ level then
    if !l.appenders.isEmpty then ownWritten l level
    else if l.default_root then
      let root := m.getLogger (asc "root")
      if root.level ≤ level then ownWritten root level else []
    else []
  else []

end LogManager

theorem Logger.setFormatter_formatter (l : Logger) (val : Str) :
    (l.setFormatter val).formatter
      = if (LogFormatter.mk val).isError then l.formatter else ⟨val⟩ := by
  rw [Logger.setFormatter]
  split <;> rfl

theorem LogManager.written_below (m : LogManager) {l : Logger} {level : Level}
    (h : level < l.level) : m.written l level = [] := by
  rw [LogManager.written, if_neg (Nat.not_le.mpr h)]

theorem defaultPattern_valid : (LogFormatter.mk defaultPattern).isError = false := by
  decide +kernel

end Log
end KitServer
