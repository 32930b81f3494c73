import PlotStream.Text.Case
import PlotStream.Value.Number

/-!
# Settings

What the environment configures: where the server listens, how much it logs, whether it reloads and
how long a waiting thread has patience. A variable that is absent leaves the default.
-/

namespace PlotStream

/-- The variables of an environment, by name. -/
abbrev Environment := List (String × String)

/-- The configuration of the server. -/
structure Settings where
  host : String
  port : Int
  logLevel : String
  reload : Bool
  plotTimeout : Option Double
deriving DecidableEq, Repr

namespace Settings

/-- The words that switch something on. -/
def trueWords : List String := ["1", "true", "yes", "on"]

/-- Text in capitals. -/
def upperText (s : String) : String :=
  String.ofList (Text.upper s.toList)

/-- Text in small letters. -/
def lowerText (s : String) : String :=
  String.ofList (Text.lower s.toList)

/-- The port; it is the first thing to be checked. -/
def readPort (env : Environment) : Except Fault Int :=
  match env.lookup "HAZE_PORT" with
  | some s => integerOfText s
  | none => .ok 8000

/-- The patience in seconds; blank text means that there is no bound. -/
def readTimeout (env : Environment) : Except Fault (Option Double) :=
  let raw := Text.stripBoth Text.isBlank ((env.lookup "HAZE_PLOT_TIMEOUT").getD "").toList
  if raw.isEmpty then .ok none
  else return some (← realOfText (String.ofList raw))

/-- The settings of an environment. -/
def ofEnvironment (env : Environment) : Except Fault Settings := do
  let port ← readPort env
  let plotTimeout ← readTimeout env
  return {
    host := (env.lookup "HAZE_HOST").getD "127.0.0.1"
    port
    logLevel := upperText ((env.lookup "HAZE_LOG_LEVEL").getD "INFO")
    reload := trueWords.contains (lowerText ((env.lookup "HAZE_RELOAD").getD "false"))
    plotTimeout }

/-- The settings once they have been needed: those of an earlier time if there are any, and
otherwise those of the environment, which are kept if they can be read. -/
def cached (known : Option Settings) (env : Environment) :
    Except Fault Settings × Option Settings :=
  match known with
  | some s => (.ok s, some s)
  | none =>
    match ofEnvironment env with
    | .ok s => (.ok s, some s)
    | .error fault => (.error fault, none)

/-- The settings asked for in one environment after the other, beginning with none known. -/
def cachedAll (known : Option Settings) : List Environment → List (Except Fault Settings)
  | [] => []
  | env :: envs =>
    let (answer, known) := cached known env
    answer :: cachedAll known envs

end Settings

end PlotStream
