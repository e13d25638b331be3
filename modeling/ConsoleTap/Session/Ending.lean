/-!
# How a session ends

An end is what `run` returns, if it returns no fault.
-/

namespace ConsoleTap.Session

inductive Ending where
  /-- The target closed the channel, or the channel failed. -/
  | channelClosed
  /-- The session was asked to close. -/
  | closeRequested
deriving DecidableEq, Repr, Inhabited

def Ending.name : Ending → String
  | .channelClosed => "ChannelClosed"
  | .closeRequested => "CloseRequested"

end ConsoleTap.Session
