import PlotStream.Fault
import PlotStream.Log.Level
import PlotStream.Settings

/-!
# Loggers

Loggers are named, and the part of a name before a dot names a logger that may stand above it
(`Loggers.above`). A logger comes into being when it is first asked for: it is put below the nearest
one above it that is there, and loggers that are there already may move below it. A logger without a
level of its own takes that of its nearest ancestor with one, in the end that of the root. Log lines
go to the handlers of the root, which has none before logging is set up. Setting up succeeds once: the
first level that can be used stays.
-/

namespace PlotStream

/-- A logger below the root. -/
structure Logger where
  name : String
  /-- The logger that it stands below; without one it stands below the root. -/
  parent? : Option String
  level : Level
deriving DecidableEq, Repr

/-- A handler, which writes log lines to the standard output. It is told from the other handlers that
have ever been made by its number among them. -/
structure Handler where
  number : Nat
deriving DecidableEq, Repr

/-- The levels in force and where log lines go. -/
structure Loggers where
  rootLevel : Level
  /-- The loggers that have been asked for, in that order. -/
  loggers : List Logger
  /-- What has been said of a logger and a level since a level was last set; it is not said anew. -/
  verdicts : List ((String × Level) × Bool)
  /-- The handlers of the root. -/
  handlers : List Handler
  /-- How many handlers have been made. -/
  handlersMade : Nat
  /-- Whether setting up has succeeded. -/
  configured : Bool
  numbered : ∀ h ∈ handlers, h.number < handlersMade
deriving DecidableEq, Repr

namespace Loggers

/-- Before anything is set up, warnings and worse are admitted. -/
def initial : Loggers :=
  ⟨.warning, [], [], [], 0, false, nofun⟩

/-- The names in capitals of the logging facility that are no levels, with the fault that follows from
using them as one. -/
def unusable : List (String × Fault) :=
  [("BASIC_FORMAT", .unknownLevel "'%(levelname)s:%(name)s:%(message)s'"),
    ("_STYLES", .levelNotText
      ("\x7b'%': (<class 'logging.PercentStyle'>, '%(levelname)s:%(name)s:%(message)s'), " ++
        "'\x7b': (<class 'logging.StrFormatStyle'>, " ++
        "'\x7blevelname\x7d:\x7bname\x7d:\x7bmessage\x7d'), " ++
        "'$': (<class 'logging.StringTemplateStyle'>, " ++
        "'$\x7blevelname\x7d:$\x7bname\x7d:$\x7bmessage\x7d')\x7d"))]

/-- The level that a name in capitals is taken for. What the facility has no name for means `info`. -/
def levelOf (name : String) : Except Fault Level :=
  match unusable.lookup name with
  | some fault => .error fault
  | none => .ok ((Level.ofName? name).getD .info)

variable (ls : Loggers)

/-- A new handler in the place of all that the root has. -/
def replaceHandlers : Loggers :=
  { ls with
    handlers := [⟨ls.handlersMade⟩]
    handlersMade := ls.handlersMade + 1
    numbered := by simp }

/-- Set up logging at a level given in any case. The handlers are replaced before the level is looked
at, so that they are new even if there is no such level. -/
def setUp (level : String) : Except Fault Unit × Loggers :=
  if ls.configured then (.ok (), ls)
  else
    match levelOf (Settings.upperText level) with
    | .error fault => (.error fault, ls.replaceHandlers)
    | .ok level =>
      (.ok (), { ls.replaceHandlers with rootLevel := level, verdicts := [], configured := true })

/-- The name of the root. -/
def rootName : String := "root"

/-- Whether a name means the root. -/
def isRoot (logger : String) : Bool :=
  logger = "" || logger = rootName

/-- The beginnings of a reversed name, from the longest, that end before a dot. Nothing ends before
a leading dot, and of two dots side by side only the last counts. -/
def beginnings : List Char → List (List Char)
  | '.' :: c :: cs => (c :: cs).reverse :: beginnings cs
  | _ :: cs => beginnings cs
  | [] => []

/-- The names of the loggers that may stand above a logger, the nearest first. -/
def above (name : String) : List String :=
  (beginnings name.toList.reverse).map String.ofList

/-- The logger of a name. -/
def find? (name : String) : Option Logger :=
  ls.loggers.find? (·.name = name)

/-- A logger after one of the given name has come into being: it moves below it if that one may stand
above it and is nearer than what it stands below. The name of the root takes part in this as any
other. -/
def adopt (name : String) (l : Logger) : Logger :=
  let parent := l.parent?.getD rootName
  if (above l.name).contains name && !name.toList.isPrefixOf parent.toList then
    { l with parent? := some name }
  else l

/-- Ask for a logger. -/
def create (name : String) : Loggers :=
  if isRoot name || (ls.find? name).isSome then ls
  else
    let parent? := (above name).find? fun n => (ls.find? n).isSome
    { ls with loggers := ls.loggers.map (adopt name) ++ [⟨name, parent?, .notSet⟩] }

/-- Give a logger a level of its own. -/
def setLevel (logger level : String) : Except Fault Unit × Loggers :=
  let ls := ls.create logger
  match Level.ofName? level with
  | none => (.error (.unknownLevel (Text.quoted level)), ls)
  | some level =>
    let change := fun l : Logger => if l.name = logger then { l with level } else l
    (.ok (), { ls with
      rootLevel := if isRoot logger then level else ls.rootLevel
      loggers := ls.loggers.map change
      verdicts := [] })

/-- The level in force for a logger, found in so many steps upwards. -/
def levelWithin : Nat → Option String → Level
  | steps + 1, some name =>
    match ls.find? name with
    | some l => if l.level ≠ .notSet then l.level else levelWithin steps l.parent?
    | none => ls.rootLevel
  | _, _ => ls.rootLevel

/-- The level in force for a logger. Every step upwards leads to another logger. -/
def effective (logger : String) : Level :=
  ls.levelWithin ls.loggers.length (if isRoot logger then none else some logger)

/-- Whether a logger admits records of a level. -/
def enabled (logger : String) (level : Level) : Bool × Loggers :=
  let ls := ls.create logger
  let key := (if isRoot logger then rootName else logger, level)
  match ls.verdicts.lookup key with
  | some verdict => (verdict, ls)
  | none =>
    let verdict := decide (level ≠ .notSet ∧ (ls.effective logger).rank ≤ level.rank)
    (verdict, { ls with verdicts := (key, verdict) :: ls.verdicts })

/-- The line of a record at a time. -/
def line (time : String) (r : LogRecord) : String :=
  time ++ " [" ++ r.level.name ++ "] " ++ (if isRoot r.logger then rootName else r.logger) ++ ": " ++
    r.text ++ "\n"

/-- What a record adds to the standard output: a line for each handler. -/
def write (time : String) (r : LogRecord) : String × Loggers :=
  let (admitted, ls) := ls.enabled r.logger r.level
  (if admitted then String.join (ls.handlers.map fun _ => line time r) else "", ls)

end Loggers

end PlotStream
