import PlotStream.Log.Registry

/-!
# The command line

The options of the server: `--port`, `--host`, `--reload` with its opposite, and `--help`. A long
option may be shortened as long as one option is meant, and its value follows as the next argument
or behind an equals sign. All arguments are told apart before any takes effect, so an ambiguous
option is reported first; after that the first fault counts, and leftover arguments come last.
-/

namespace PlotStream.CommandLine

/-- The options. -/
inductive Switch
  | help
  | port
  | host
  | reload
deriving DecidableEq, Repr

namespace Switch

/-- How an option is called in a report. -/
def title : Switch → String
  | help => "-h/--help"
  | port => "--port"
  | host => "--host"
  | reload => "--reload/--no-reload"

/-- The spellings of the options. -/
def spellings : List (String × Switch) :=
  [("-h", help), ("--help", help), ("--port", port), ("--host", host), ("--reload", reload),
    ("--no-reload", reload)]

end Switch

/-- An argument, told apart. -/
inductive Argument
  /-- Something that is no option. -/
  | plain
  /-- A known option as it is spelt in full, and the value behind its equals sign. -/
  | option (spelling : String) (switch : Switch) (value : Option String)
  /-- The short option with further letters attached, perhaps behind an equals sign. -/
  | attached (letters : List Char)
  /-- Looks like an option but is none. -/
  | unknown
deriving DecidableEq, Repr

/-- How parsing ends without a result. -/
inductive Exit
  | help
  | failure (reason : String)
deriving DecidableEq, Repr

/-- A text in two at its first equals sign. -/
def splitEquals (cs : List Char) : List Char × Option (List Char) :=
  match cs.span (· ≠ '=') with
  | (name, '=' :: value) => (name, some value)
  | (name, _) => (name, none)

/-- Whether a text is a negative number: digits with at most one point, digits after it. -/
def isNegativeNumber : List Char → Bool
  | '-' :: cs =>
    let (whole, rest) := cs.span (fun c => (Text.digitValue? c).isSome)
    match rest with
    | [] => !whole.isEmpty
    | ['\n'] => !whole.isEmpty
    | '.' :: places =>
      let places := if places.getLast? = some '\n' then places.dropLast else places
      !places.isEmpty && places.all fun c => (Text.digitValue? c).isSome
    | _ => false
  | _ => false

/-- What looks like an option but is none: a number or a text with spaces is plain. -/
def leftover (cs : List Char) : Argument :=
  if isNegativeNumber cs || cs.contains ' ' then .plain else .unknown

/-- Tell a long option apart from its beginning. -/
def classifyLong (arg : String) (name : List Char) (value : Option (List Char)) :
    Except Exit Argument :=
  match Switch.spellings.filter fun s => name.isPrefixOf s.1.toList with
  | [] => .ok (leftover arg.toList)
  | [(spelling, switch)] => .ok (.option spelling switch (value.map String.ofList))
  | several =>
    .error (.failure ("ambiguous option: " ++ arg ++ " could match " ++
      ", ".intercalate (several.map Prod.fst)))

/-- Tell an argument apart. -/
def classify (arg : String) : Except Exit Argument :=
  match arg.toList with
  | '-' :: c :: cs =>
    let (name, value) := splitEquals ('-' :: c :: cs)
    match Switch.spellings.lookup arg with
    | some switch => .ok (.option arg switch none)
    | none =>
      match Switch.spellings.lookup (String.ofList name), value with
      | some switch, some value =>
        if name = ['-', 'h'] && !value.isEmpty then .ok (.attached value)
        else .ok (.option (String.ofList name) switch (some (String.ofList value)))
      | _, _ =>
        if c = '-' then classifyLong arg name value
        else if c = 'h' then .ok (.attached cs)
        else .ok (leftover ('-' :: c :: cs))
  | _ => .ok .plain

/-- All arguments told apart. After a lone `--` everything is plain. -/
def classifyAll : List String → Except Exit (List (String × Argument))
  | [] => .ok []
  | arg :: args =>
    if arg = "--" then .ok ((arg :: args).map fun a => (a, Argument.plain))
    else do
      let kind ← classify arg
      return (arg, kind) :: (← classifyAll args)

/-- What the options decide. A host or port that was given as `--` behind an equals sign is none at
all. -/
structure Options where
  host : Option String
  port : Option Int
  reload : Bool
deriving DecidableEq, Repr

/-- A fault of one option. -/
def fault (switch : Switch) (reason : String) : Exit :=
  .failure ("argument " ++ switch.title ++ ": " ++ reason)

/-- An option that takes no value was given one. -/
def ignored (switch : Switch) (value : String) : Exit :=
  fault switch ("ignored explicit argument " ++ Text.quoted value)

/-- Set an option to a value. -/
def setValue (o : Options) (switch : Switch) (value : String) : Except Exit Options :=
  let given := value ≠ "--"
  match switch with
  | .port =>
    if given then
      match integerOfText value with
      | .ok n => .ok { o with port := some n }
      | .error _ => .error <| fault .port ("invalid int value: " ++ Text.quoted value)
    else .ok { o with port := none }
  | .host => .ok { o with host := if given then some value else none }
  | _ => .ok o

/-- How letters attached to the short option end the run: it may be repeated, and whatever else
follows is a value that it does not take. -/
def attachedHelp : List Char → Exit
  | [] => .help
  | 'h' :: cs => attachedHelp cs
  | cs => ignored .help (String.ofList cs)

/-- Let the arguments take effect in turn; what is left over is kept in order. -/
def apply (o : Options) : List (String × Argument) → Except Exit (Options × List String)
  | [] => .ok (o, [])
  | (arg, .plain) :: rest | (arg, .unknown) :: rest => do
    let (o, extras) ← apply o rest
    return (o, arg :: extras)
  | (_, .attached letters) :: _ => .error (attachedHelp letters)
  | (_, .option spelling switch value) :: rest =>
    match switch, value with
    | .help, none => .error .help
    | .reload, none => apply { o with reload := spelling = "--reload" } rest
    | .help, some v | .reload, some v => .error (ignored switch v)
    | _, some v => do apply (← setValue o switch v) rest
    | _, none =>
      match rest with
      | (v, .plain) :: rest =>
        if v = "--" then .error (fault switch "expected one argument")
        else do apply (← setValue o switch v) rest
      | _ => .error (fault switch "expected one argument")

/-- The options of a command line; the settings are the defaults. -/
def parse (s : Settings) (args : List String) : Except Exit Options := do
  let kinds ← classifyAll args
  let (o, extras) ← apply ⟨some s.host, some s.port, s.reload⟩ kinds
  if extras.isEmpty then return o
  else throw (.failure ("unrecognized arguments: " ++ " ".intercalate extras))

/-- The name the program is run under. -/
def programName : String := "main.py"

/-- The last line of the report about a command line that cannot be used. -/
def report (reason : String) : String :=
  let text := programName ++ ": error: " ++ reason
  String.ofList (text.toList.reverse.takeWhile (· ≠ '\n')).reverse

/-- The help page, eighty columns wide. -/
def helpPage : String :=
  "usage: " ++ programName ++ " [-h] [--port PORT] [--host HOST] [--reload | --no-reload]\n\n" ++
  "haze plot streaming server\n\n" ++
  "options:\n" ++
  "  -h, --help            show this help message and exit\n" ++
  "  --port PORT           Port to run the server on (default: 8000 or HAZE_PORT\n" ++
  "                        env var)\n" ++
  "  --host HOST           Host to bind to (default: 127.0.0.1 or HAZE_HOST env\n" ++
  "                        var)\n" ++
  "  --reload, --no-reload\n" ++
  "                        Enable auto-reload (default: off unless HAZE_RELOAD is\n" ++
  "                        set)\n"

/-- How the server is started. -/
structure Launch where
  application : String
  host : Option String
  port : Option Int
  reload : Bool
  logLevel : String
deriving DecidableEq, Repr

/-- The outcome of a run of the program: it starts the server at a level of logging, or it ends. -/
inductive Outcome
  | launch (l : Launch) (rootLevel : Level)
  | exit (code : Nat) (lastErrorLine : String) (output : String)
deriving DecidableEq, Repr

/-- Run the program: settings and logging come before the command line. -/
def run (env : Environment) (args : List String) : Except Fault Outcome := do
  let s ← Settings.ofEnvironment env
  let (done, loggers) := Loggers.initial.setUp s.logLevel
  done
  match parse s args with
  | .ok o =>
    return .launch ⟨"main:app", o.host, o.port, o.reload, Settings.lowerText s.logLevel⟩
      loggers.rootLevel
  | .error .help => return .exit 0 "" helpPage
  | .error (.failure reason) => return .exit 2 (report reason) ""

end PlotStream.CommandLine
