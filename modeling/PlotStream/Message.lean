import PlotStream.Json.Reader
import PlotStream.Json.Writer
import PlotStream.Message.DataSize

/-!
# Messages

Text frames carry one message each: a JSON object whose member `type` names the kind of message,
with the fields of the message beside it.
-/

namespace PlotStream

/-- The kinds of messages. -/
inductive MessageKind
  | msg
  | call
  | ping
  | pong
  | error
deriving DecidableEq, Repr

namespace MessageKind

/-- The name of a kind in a message. -/
def name : MessageKind → String
  | msg => "msg"
  | call => "call"
  | ping => "ping"
  | pong => "pong"
  | error => "error"

def all : List MessageKind := [msg, call, ping, pong, error]

/-- The kind of a name. -/
def ofName? (s : String) : Option MessageKind :=
  all.find? fun kind => kind.name = s

end MessageKind

/-- A message: its kind and its other fields in order. -/
structure Message where
  kind : MessageKind
  fields : Entries Value

namespace Message

/-- The member that holds the kind. -/
def kindKey : Value := .text "type"

/-- A message as one value: the kind first, then the fields. A field called `type` takes the place
of the kind. -/
def toValue (m : Message) : Value :=
  .dict (m.fields.foldl (fun es e => Entries.insert es e.1 e.2) [(kindKey, .text m.kind.name)])

/-- The text of a message. -/
def toJson (room : Nat) (m : Message) : Except Fault String :=
  Json.write .refuse room m.toValue

/-- The kind that a value names. -/
def kindOf (v : Value) : Except Fault MessageKind :=
  match v with
  | .text s =>
    match MessageKind.ofName? s with
    | some kind => .ok kind
    | none => .error (.unknownMessageType (Text.quoted s))
  | v => do throw (.unknownMessageType (← v.repr))

/-- The message of a value. A missing kind means an error message. -/
def ofValue : Value → Except Fault Message
  | .dict members => do
    let kind ← kindOf ((Entries.get? members kindKey).getD (.text MessageKind.error.name))
    return ⟨kind, members.filter fun e => !e.1.keyEqual kindKey⟩
  | _ => .error .messageNotObject

/-- The message of a text. -/
def ofJson (s : String) : Except Fault Message := do
  ofValue (← Json.read s)

/-- A line of text for the reader of the page. -/
def msg (text : Value) : Message :=
  ⟨.msg, [(.text "msgText", text)]⟩

/-- A call of a function in the browser. -/
def call (name args : Value) : Message :=
  ⟨.call, [(.text "name", name), (.text "args", args)]⟩

/-- The announcement of the amount of column data that follows. -/
def dataSize (bytes : Value) : Except Fault Message :=
  return msg (.text ("total plot data size: " ++ (← dataSizeText bytes)))

/-- The call that shows a window. `names` holds a list of column names for each data source. -/
def plotWindow (group window names code : Value) : Message :=
  call (.text "plotWin") (.list [group, window, names, code])

/-- A report of something that went wrong. -/
def failure (text : String) : Message :=
  ⟨.error, [(.text "error", .text text)]⟩

/-- The answer to a keep-alive. -/
def pong (time : String) : Message :=
  ⟨.pong, [(.text "timestamp", .text time)]⟩

/-- The answer to a text that came in at some time: a keep-alive is answered, what is no message is
reported, and nothing else has an answer. -/
def reply (time : String) (text : String) : Option Message :=
  match ofJson text with
  | .error fault => some (failure ("Invalid message format: " ++ fault.message))
  | .ok m => if m.kind = .ping then some (pong time) else none

end Message

end PlotStream
