import ConsoleTap.Fault
import ConsoleTap.Session.Ending

/-!
# The diagnostic log

Everything the client reports about its own work is a `Notice`: a fact, with a
level and a wording.  The parts of the client produce notices beside their
results; writing them down is left to whoever runs the client, who also decides
the level from which on they are worth writing.

The notices are those of `Correlator`, `Session`, `Materializer`, `Dispatcher` and
`connect`.
-/

namespace ConsoleTap

/-- How grave a notice is. -/
inductive Level where
  | trace
  | debug
  | info
  | warn
  | error
deriving DecidableEq, Repr, Inhabited

/-- The rank of a level; a graver one has the greater rank. -/
def Level.rank : Level → Nat
  | .trace => 0
  | .debug => 1
  | .info => 2
  | .warn => 3
  | .error => 4

def Level.name : Level → String
  | .trace => "TRACE"
  | .debug => "DEBUG"
  | .info => "INFO"
  | .warn => "WARN"
  | .error => "ERROR"

/-- Something the client reports about its work. -/
inductive Notice where
  /-- A request is waited for from now on. -/
  | tracking (id : Nat) (method : String)
  | answered (id : Nat) (method : String) (after : Duration)
  | timedOut (id : Nat) (method : String) (after : Duration)
  /-- A frame came when replies were no longer matched. -/
  | frameAfterStop
  /-- A frame came when events were no longer read. -/
  | frameWithoutReader
  /-- Requests that were waited for when the session closed. -/
  | cancelling (count : Nat)
  /-- The target was asked for its events. -/
  | activated
  | closing
  | closeFailed (cause : TransportFault)
  | ending (how : Session.Ending)
  /-- A frame that is no JSON object, of that many bytes. -/
  | malformedFrame (bytes : Nat)
  | channelEnded
  | channelFailed (cause : TransportFault)
  /-- A line could not be written. -/
  | lineLost
  /-- An event could not be read. -/
  | unreadableEvent (cause : Json.Mismatch)
  | orphanReply (id : Nat)
  | ignoredEvent (method : String)
  | fetchTimedOut (objectId : String)
  | fetchFailed (objectId : String) (cause : Fault)
  | connecting (url : String)
deriving DecidableEq, Repr, Inhabited

namespace Notice

def level : Notice → Level
  | .tracking .. | .answered .. | .ignoredEvent _ => .trace
  | .timedOut .. | .channelFailed _ | .lineLost | .unreadableEvent _ => .warn
  | .closing => .info
  | .frameAfterStop | .frameWithoutReader | .cancelling _ | .activated | .closeFailed _
  | .ending _ | .malformedFrame _ | .channelEnded | .orphanReply _ | .fetchTimedOut _
  | .fetchFailed .. | .connecting _ => .debug

def message : Notice → String
  | .tracking id method => "Tracking request " ++ toString id ++ " (" ++ method ++ ")"
  | .answered id method after =>
      "Request " ++ toString id ++ " (" ++ method ++ ") answered after " ++ after.text
  | .timedOut id method after =>
      "Request " ++ toString id ++ " (" ++ method ++ ") timed out after " ++ after.text
  | .frameAfterStop => "Correlator stopped; dropping frame"
  | .frameWithoutReader => "Event queue closed; dropping frame"
  | .cancelling count => "Cancelling " ++ toString count ++ " pending request(s)"
  | .activated => "Activated Runtime, Console and Log domains"
  | .closing => "Closing session"
  | .closeFailed cause => "Error while closing channel: " ++ cause.message
  | .ending how => "Session ending: " ++ how.name
  | .malformedFrame bytes => "Dropping malformed frame (" ++ toString bytes ++ " bytes)"
  | .channelEnded => "Channel closed by peer"
  | .channelFailed cause => "Channel error: " ++ cause.message
  | .lineLost => "Failed to write output: line receiver dropped"
  | .unreadableEvent cause => "Failed to handle CDP event: " ++ cause.message
  | .orphanReply id => "Ignoring reply to untracked request " ++ toString id
  | .ignoredEvent method => "Ignoring event " ++ method
  | .fetchTimedOut objectId => "Property fetch for " ++ objectId ++ " timed out"
  | .fetchFailed objectId cause => "Property fetch for " ++ objectId ++ " failed: " ++ cause.message
  | .connecting url => "Connecting to " ++ url

def line (n : Notice) : String := n.level.name ++ " " ++ n.message

def isShownAt (level : Level) (n : Notice) : Bool := decide (level.rank ≤ n.level.rank)

def ofFailedFetch (objectId : String) (cause : Fault) : Notice :=
  if cause.isTimeout then .fetchTimedOut objectId else .fetchFailed objectId cause

end Notice
end ConsoleTap
