import PlotStream.Log.Level
import PlotStream.Plot.Validation
import PlotStream.Wire.Frame

/-!
# Log records of the session

What the session writes to its log, each record with its level and logger.
-/

namespace PlotStream

/-- The text of a value in a log record; a value without text leaves nothing. -/
def Value.logText (v : Value) : String :=
  match v.toText with
  | .ok s => s
  | .error _ => ""

namespace LogRecord

/-- The logger of streaming calls. -/
def execLogger : String := "haze.exec"

/-- The logger of the session. -/
def sessionLogger : String := "haze.session.manager"

/-- The logger of the server. -/
def serverLogger : String := "main"

/-- No browser is connected to stream a group to. -/
def noSession (group : Value) : LogRecord :=
  ⟨.error, execLogger, "No ws in context to plot group " ++ group.logText⟩

/-- A window is about to be shown. -/
def windowReady (w : Window) (code : String) : LogRecord :=
  ⟨.debug, execLogger,
    "Window " ++ w.id ++ ": " ++ toString w.sources.length ++ " data source(s), " ++
      toString w.figures.length ++ " figure(s), " ++ toString code.length ++ " chars of code"⟩

/-- A group has been streamed. -/
def plotted (g : Group) : LogRecord :=
  ⟨.info, execLogger,
    "Plotted group " ++ g.id.logText ++ ": " ++ toString g.windows.length ++ " window(s), " ++
      toString g.byteSize ++ " bytes of column data"⟩

/-- A data source has no rows. -/
def emptySource (e : EmptySource) : LogRecord :=
  ⟨.debug, execLogger,
    "Data source " ++ toString e.position ++ " of window " ++ e.window ++ " has no data"⟩

/-- A call ran out of time before it began to stream. -/
def timedOutBefore (group : Value) : LogRecord :=
  ⟨.warning, execLogger,
    "Plot group " ++ group.logText ++ " timed out before streaming, cancelled"⟩

/-- A call ran out of time while it was streaming. -/
def timedOutWhile (group : Value) : LogRecord :=
  ⟨.warning, execLogger,
    "Plot group " ++ group.logText ++ " timed out while streaming, the stream will complete"⟩

/-- The name of a client. -/
def clientText (client : Option String) : String :=
  client.getD "None"

/-- A browser has connected. -/
def connected (client : Option String) : LogRecord :=
  ⟨.info, sessionLogger, "Plot session connected: " ++ clientText client⟩

/-- A browser takes the place of another. -/
def replacing (old new : Option String) : LogRecord :=
  ⟨.info, sessionLogger,
    "Replacing plot session " ++ clientText old ++ " with " ++ clientText new⟩

/-- The session has ended. -/
def disconnected (client : Option String) : LogRecord :=
  ⟨.info, sessionLogger, "Plot session disconnected: " ++ clientText client⟩

/-- A frame could not be sent. -/
def sendError (frame : Frame) (fault : Fault) : LogRecord :=
  ⟨.error, sessionLogger,
    "Error sending " ++ frame.kindName ++ " frame over WebSocket: " ++ fault.message⟩

/-- An endpoint has failed. -/
def endpointError (fault : Fault) : LogRecord :=
  ⟨.error, serverLogger, "WebSocket error: " ++ fault.message⟩

end LogRecord

end PlotStream
