import ConsoleTap.Target.RemoteObject

/-!
# Messages

The commands sent to a debug target, and what comes back: events, and replies
that carry either a result or an error.  A frame is recognised by its method
name; only a known event whose parameters have the wrong shape is an error, and
everything else that cannot be used is an unknown message.

`Unsolicited.ofFrame` is `classify`; a command is a `CdpRequest`, a reply's error
a `CdpErrorResponse`.
-/

namespace ConsoleTap.Target

open ConsoleTap.Json

/-! ### Methods -/

def runtimeEnable : String := "Runtime.enable"
def consoleEnable : String := "Console.enable"
def logEnable : String := "Log.enable"
def getProperties : String := "Runtime.getProperties"
def consoleApiCalled : String := "Runtime.consoleAPICalled"
def exceptionThrown : String := "Runtime.exceptionThrown"
def logEntryAdded : String := "Log.entryAdded"

/-- The domains switched on when a session starts, in this order. -/
def openingMethods : List String := [runtimeEnable, consoleEnable, logEnable]

/-! ### Commands -/

structure Command where
  id : Nat
  method : String
  params : Option Value
deriving DecidableEq, Repr, Inhabited

/-- The frame of a command; parameters are left out when there are none. -/
def Command.toJson (c : Command) : Value :=
  .object ([("id", .integer c.id), ("method", .string c.method)] ++ optionalMember "params" c.params)

def Command.text (c : Command) : String := c.toJson.compact

/-- The parameters that ask for the own properties of an object. -/
def propertiesParams (objectId : String) : Value :=
  .object [("objectId", .string objectId), ("ownProperties", .bool true),
    ("generatePreview", .bool true)]

/-! ### Replies -/

/-- The error a reply may carry. -/
structure ReplyError where
  code : Int := 0
  message : String := ""
  data : Option Value := none
deriving Repr, Inhabited

/-- The fields of a reply's error; the positional form must hold all three. -/
def ReplyError.schema : Schema ReplyError where
  name := "CdpErrorResponse"
  defaults := {}
  fields :=
    [ field "code" readInteger (fun e x => { e with code := x }),
      field "message" readString (fun e x => { e with message := x }),
      requiredField "data" (readOption .ok) (fun e x => { e with data := x }) ]

def readReplyError (v : Value) : Reading ReplyError := ReplyError.schema.read v

/-- The result of asking for properties. -/
structure PropertyList where
  result : Option (List PropertyDescriptor) := none
deriving Repr, Inhabited

/-- The field of a property list; the positional form must hold it. -/
def PropertyList.schema : Schema PropertyList where
  name := "GetPropertiesResult"
  defaults := {}
  fields :=
    [ requiredField "result" (readOption (readList readDescriptor))
        (fun l x => { l with result := x }) ]

def readPropertyList (v : Value) : Reading PropertyList := PropertyList.schema.read v

/-! ### Events -/

structure ExceptionDetails where
  text : Option String := none
  exception : Option RemoteObject := none
  url : Option String := none
  lineNumber : Option Int := none
  columnNumber : Option Int := none
deriving Repr, Inhabited

def ExceptionDetails.schema : Schema ExceptionDetails where
  name := "ExceptionDetails"
  defaults := {}
  fields :=
    [ field "text" (readOption readString) (fun e x => { e with text := x }),
      field "exception" (readOption readRemoteObject) (fun e x => { e with exception := x }),
      field "url" (readOption readString) (fun e x => { e with url := x }),
      field "lineNumber" (readOption readInteger) (fun e x => { e with lineNumber := x }),
      field "columnNumber" (readOption readInteger) (fun e x => { e with columnNumber := x }) ]

def readExceptionDetails (v : Value) : Reading ExceptionDetails := ExceptionDetails.schema.read v

/-- An exception that nobody caught. -/
structure ExceptionThrown where
  details : ExceptionDetails := {}
deriving Repr, Inhabited

def ExceptionThrown.schema : Schema ExceptionThrown where
  name := "ExceptionThrown"
  defaults := {}
  fields := [ field "exceptionDetails" readExceptionDetails (fun _ x => ⟨x⟩) ]

def readExceptionThrown (v : Value) : Reading ExceptionThrown := ExceptionThrown.schema.read v

/-- The description of the exception, else the text of its details. -/
def ExceptionThrown.message (e : ExceptionThrown) : String :=
  match e.details.exception.bind RemoteObject.description with
  | some description => description
  | none => e.details.text.getD "Unknown error"

structure ConsoleCall where
  kind : String := "log"
  args : List RemoteObject := []
deriving Repr, Inhabited

def ConsoleCall.schema : Schema ConsoleCall where
  name := "ConsoleApiCalled"
  defaults := {}
  fields :=
    [ field "type" readString (fun c x => { c with kind := x }),
      field "args" (readList readRemoteObject) (fun c x => { c with args := x }) ]

def readConsoleCall (v : Value) : Reading ConsoleCall := ConsoleCall.schema.read v

/-- An entry of the target's own log. -/
structure LogEntry where
  level : String := "info"
  text : String := ""
  source : Option String := none
deriving Repr, Inhabited

def LogEntry.schema : Schema LogEntry where
  name := "LogEntry"
  defaults := {}
  fields :=
    [ field "level" readString (fun e x => { e with level := x }),
      field "text" readString (fun e x => { e with text := x }),
      field "source" (readOption readString) (fun e x => { e with source := x }) ]

def readLogEntry (v : Value) : Reading LogEntry := LogEntry.schema.read v

structure LogEntryAdded where
  entry : LogEntry := {}
deriving Repr, Inhabited

def LogEntryAdded.schema : Schema LogEntryAdded where
  name := "LogEntryAdded"
  defaults := {}
  fields := [ field "entry" readLogEntry (fun _ x => ⟨x⟩) ]

def readLogEntryAdded (v : Value) : Reading LogEntryAdded := LogEntryAdded.schema.read v

/-! ### Frames that answer no pending request -/

/-- A frame, recognised. -/
inductive Unsolicited where
  /-- A reply to a request that nobody waits for. -/
  | orphanReply (id : Nat)
  | consoleCall (call : ConsoleCall)
  | exception (thrown : ExceptionThrown)
  | logEntry (added : LogEntryAdded)
  | unknown (method : String)
deriving Repr, Inhabited

/-- The parameters of an event frame: none at all and `null` count as an empty
    object. -/
def eventParams (ms : Members) : Value :=
  match Members.get? ms "params" with
  | none | some .null => .object []
  | some v => v

/-- Recognises a frame by its method name. -/
def Unsolicited.ofFrame : Value → Reading Unsolicited
  | .object ms =>
      match Members.get? ms "method" with
      | some (.string method) =>
          if method = consoleApiCalled then
            (readConsoleCall (eventParams ms)).map .consoleCall
          else if method = exceptionThrown then
            (readExceptionThrown (eventParams ms)).map .exception
          else if method = logEntryAdded then
            (readLogEntryAdded (eventParams ms)).map .logEntry
          else .ok (.unknown method)
      | _ =>
          match (Members.get? ms "id").bind Value.asNat? with
          | some id => .ok (.orphanReply id)
          | none => .ok (.unknown "")
  | _ => .ok (.unknown "")

end ConsoleTap.Target
