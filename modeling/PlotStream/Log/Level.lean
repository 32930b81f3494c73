/-!
# Levels of severity

The levels of log records, from the one that admits everything to the most severe, and their names.
-/

namespace PlotStream

/-- How severe a log record is. -/
inductive Level
  | notSet
  | debug
  | info
  | warning
  | error
  | critical
deriving DecidableEq, Repr

namespace Level

/-- The name of a level in a log line. -/
def name : Level → String
  | notSet => "NOTSET"
  | debug => "DEBUG"
  | info => "INFO"
  | warning => "WARNING"
  | error => "ERROR"
  | critical => "CRITICAL"

/-- The rank of a level, in steps of ten. -/
def rank : Level → Nat
  | notSet => 0
  | debug => 10
  | info => 20
  | warning => 30
  | error => 40
  | critical => 50

/-- The levels that can be named; two of them have a second name. -/
def named : List (String × Level) :=
  [("CRITICAL", critical), ("FATAL", critical), ("ERROR", error), ("WARN", warning),
    ("WARNING", warning), ("INFO", info), ("DEBUG", debug), ("NOTSET", notSet)]

/-- The level of a name in capitals. -/
def ofName? (s : String) : Option Level :=
  named.lookup s

end Level

/-- One entry of the log. -/
structure LogRecord where
  level : Level
  logger : String
  text : String
deriving DecidableEq, Repr

end PlotStream
