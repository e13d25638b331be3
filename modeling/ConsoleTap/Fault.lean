import ConsoleTap.Duration
import ConsoleTap.Json.Reader
import ConsoleTap.Json.Record

/-!
# What can go wrong between client and target

Faults are causes.  Each has one wording, given by `message`, and nothing else
depends on the words: a request that ran out of time is told from the others by
its constructor.

`Fault` is `CdpError`, `TransportFault` is `TransportError`.
-/

namespace ConsoleTap

open ConsoleTap.Json

/-- The channel to the target failed. -/
inductive TransportFault where
  | channel (text : String)
  | closed
  | connectTimeout (limit : Duration)
deriving DecidableEq, Repr, Inhabited

def TransportFault.message : TransportFault → String
  | .channel text => "WebSocket error: " ++ text
  | .closed => "Connection closed"
  | .connectTimeout limit => "Connect timed out after " ++ limit.text

/-- Why a JSON text could not be used. -/
inductive Unreadable where
  | malformed (reason : StopReason) (place : Place)
  | mismatch (cause : Mismatch)
deriving DecidableEq, Repr, Inhabited

def Unreadable.message : Unreadable → String
  | .malformed reason place =>
      reason.message ++ " at line " ++ toString place.line ++ " column " ++ toString place.column
  | .mismatch cause => cause.message

/-- Reads a text with the reader of a record. -/
def readText {α : Type} (read : Value → Reading α) (text : String) : Except Unreadable α :=
  match readAll text.toList with
  | .error stop => .error (.malformed stop.reason (stop.placeIn text.toList))
  | .ok v => (read v).mapError .mismatch

/-- A client operation failed. -/
inductive Fault where
  | connectionFailed (text : String)
  | transport (cause : TransportFault)
  /-- The target answered with an error. -/
  | protocol (code : Int) (text : String)
  | serialization (cause : Unreadable)
  /-- A request was not answered in time. -/
  | timeout (text : String)
  /-- The session was closed before the request was answered. -/
  | cancelled
  /-- The target answered with something else than was asked for. -/
  | invalidResponse (text : String)
  | internal (text : String)
deriving DecidableEq, Repr, Inhabited

def Fault.message : Fault → String
  | .connectionFailed text => "Connection failed: " ++ text
  | .transport cause => "Transport error: " ++ cause.message
  | .protocol code text =>
      "CDP error: " ++ text ++ " (code: " ++ String.ofList (integerText code) ++ ")"
  | .serialization cause => "Serialization error: " ++ cause.message
  | .timeout text => "Timeout: " ++ text
  | .cancelled => "Session closed"
  | .invalidResponse text => "Invalid response: " ++ text
  | .internal text => "Internal error: " ++ text

def Fault.isTimeout : Fault → Bool
  | .timeout _ => true
  | _ => false

end ConsoleTap
