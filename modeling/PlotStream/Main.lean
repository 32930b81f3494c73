import PlotStream.CommandLine

/-!
# The program

The command line of the server: settings come from the environment, options from the arguments. The
help page goes to the standard output, and a report about arguments that cannot be used goes to the
standard error. A launch is announced with the address that the server listens on.
-/

namespace PlotStream

/-- The variables that the settings are read from. -/
def settingVariables : List String :=
  ["HAZE_HOST", "HAZE_PORT", "HAZE_LOG_LEVEL", "HAZE_RELOAD", "HAZE_PLOT_TIMEOUT"]

/-- The variables that are set. -/
def readEnvironment : IO Environment :=
  settingVariables.filterMapM fun name => do
    return (← IO.getEnv name).map (name, ·)

/-- Print the outcome of a run and give its exit code. -/
def printOutcome : Except Fault CommandLine.Outcome → IO UInt32
  | .ok (.launch l _) => do
    IO.println (l.application ++ " on " ++ l.host.getD "" ++ ":" ++ (l.port.map toString).getD "")
    return 0
  | .ok (.exit code line output) => do
    IO.print output
    if !line.isEmpty then IO.eprintln line
    return UInt32.ofNat code
  | .error fault => do
    IO.eprintln (fault.kind.name ++ ": " ++ fault.message)
    return 1

end PlotStream

def main (args : List String) : IO UInt32 := do
  PlotStream.printOutcome (PlotStream.CommandLine.run (← PlotStream.readEnvironment) args)
