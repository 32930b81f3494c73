import PlotStream.Session.Records

/-!
# The server

What the server answers outside the plot session: whether it is well, its page, its system
information, and what becomes of a fault that nothing else has handled.
-/

namespace PlotStream.Server

def version : String := "0.1.0"

/-- The answer to the question whether the server is well. -/
def health : Value :=
  .dict [(.text "status", .text "healthy"), (.text "message", .text "haze is running"),
    (.text "version", .text version)]

/-- The page of the server: a file, if it has been built, and an excuse otherwise. -/
inductive Page
  | file (name : String)
  | missing (message : String)
deriving DecidableEq, Repr

/-- The page, given whether its file exists. -/
def page (built : Bool) : Page :=
  if built then .file "index.html" else .missing "dist/index.html not found"

/-- The parts of the system information, in alphabetical order. -/
structure Information where
  parts : List String
  interpreter : List String
  system : List String
  byteOrder : String
deriving DecidableEq, Repr

/-- The system information. Column data has its lowest byte first. -/
def information : Information where
  parts := ["byteorder", "numpy_version", "python", "system"]
  interpreter := ["platform", "version"]
  system := ["machine", "os"]
  byteOrder := "little"

/-- An answer to a request. -/
structure Response where
  status : Nat
  body : String
deriving DecidableEq, Repr

/-- What the browser is told about a fault that nothing else has handled. -/
def faultResponse : Response :=
  ⟨500, "\x7b\"detail\":\"Internal server error\"\x7d"⟩

/-- What the log is told about it. -/
def faultRecord (path : String) (fault : Fault) : LogRecord :=
  ⟨.error, LogRecord.serverLogger,
    "Unhandled " ++ fault.kind.name ++ " on " ++ path ++ ": " ++ fault.message⟩

end PlotStream.Server
