import ConsoleTap.Log
import ConsoleTap.Print.Expansion
import ConsoleTap.Print.Rendered
import ConsoleTap.Target.Message
import ConsoleTap.Text.Lines

/-!
# The lines of a frame

What a frame that answers no request puts on the console.  An exception or a log
entry is one line, a frame that is not understood none, and an event of the
wrong shape one diagnostic line.  A console call is a line that begins with the
kind of the call and shows the values that fit in a line, with the blocks of the
others indented below it.

`Printout.ofFrame` decides what is to be printed before anything is fetched;
`Printed.ofFrame` completes it from a source of properties that answers at once.

`Printed.ofFrame` is `dispatch`, which goes through `handle` to `console_call` and
`console_lines`, `exception_line` or `log_line`.
-/

namespace ConsoleTap.Print

open ConsoleTap.Json ConsoleTap.Target

/-- What begins the line for an event that could not be read. -/
def diagnosticMark : String := "[parse-error]"

def indentation : String := "    "

/-- What a frame puts on the console, as far as the frame alone can tell. -/
inductive Printout where
  | lines (ls : List String)
  /-- The line and blocks of a console call with at least one value. -/
  | call (kind : String) (args : List RemoteObject)
deriving Repr, Inhabited

def lineOfException (e : ExceptionThrown) : String := "[console.error] EXCEPTION: " ++ e.message

/-- The line of a log entry; an entry without text has none. -/
def entryLines (e : LogEntry) : List String :=
  if e.text = "" then [] else ["[" ++ e.level ++ "] " ++ e.text]

def Printout.ofUnsolicited : Unsolicited → Printout
  | .consoleCall c => if c.args.isEmpty then .lines [] else .call c.kind c.args
  | .exception thrown => .lines [lineOfException thrown]
  | .logEntry added => .lines (entryLines added.entry)
  | .orphanReply _ | .unknown _ => .lines []

def Printout.ofFrame (frame : Value) : Printout :=
  match Unsolicited.ofFrame frame with
  | .ok incoming => .ofUnsolicited incoming
  | .error cause => .lines [diagnosticMark ++ " " ++ cause.message]

/-- The notices that recognising a frame gives rise to. -/
def frameNotices (frame : Value) : List Notice :=
  match Unsolicited.ofFrame frame with
  | .error cause => [.unreadableEvent cause]
  | .ok (.orphanReply id) => [.orphanReply id]
  | .ok (.unknown method) => [.ignoredEvent method]
  | .ok _ => []

/-- The lines of a console call: the values within the line, then the blocks. -/
def callLines (kind : String) (args : List Rendered) : List String :=
  let within := Text.joined " " ((args.filter fun a => !a.isBlock).map Rendered.text)
  let header := "[console." ++ kind ++ "]"
  (if within = "" then header else header ++ " " ++ within) ::
    (args.filter Rendered.isBlock).flatMap fun a =>
      (Text.lines a.text).map fun line => indentation ++ line

/-- The lines of a frame, the handles fetched for them in order, and the notices
    on the way. -/
structure Printed where
  lines : List String
  fetched : List String
  notices : List Notice
deriving Repr, Inhabited

/-- The notices of the fetches that failed. -/
def fetchNotices (source : PropertyLookup) (fetched : List String) : List Notice :=
  fetched.filterMap fun objectId =>
    match source objectId with
    | .ok _ => none
    | .error cause => some (.ofFailedFetch objectId cause)

/-- The lines of a frame, from a source that answers at once. -/
def Printed.ofFrame (source : PropertyLookup) (maxDepth : Nat) (frame : Value) : Printed :=
  match Printout.ofFrame frame with
  | .lines ls => ⟨ls, [], frameNotices frame⟩
  | .call kind args =>
      let trees := args.map (Expansion.ofObject source maxDepth)
      let fetched := trees.flatMap Expansion.fetched
      ⟨callLines kind (trees.map fun t => Rendered.ofNode t.node), fetched,
        frameNotices frame ++ fetchNotices source fetched⟩

end ConsoleTap.Print
