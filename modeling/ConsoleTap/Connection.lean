import ConsoleTap.Handshake
import ConsoleTap.Log
import ConsoleTap.Url.Address

/-!
# Before a connection

An address is refused without touching the network if it is no URL, if it is not
that of a web socket, or if the handshake refuses its text.

These are the checks of `connect` before it opens a socket.
-/

namespace ConsoleTap

/-- What becomes of an address before the network is touched: the notices, and the
    URL to connect to or the fault. -/
structure Attempt where
  notices : List Notice
  result : Except Fault Url.SocketUrl

def Attempt.ofAddress (text : String) : Attempt :=
  match Url.Address.read text with
  | .error cause => ⟨[], .error (.connectionFailed ("Invalid URL: " ++ cause.message))⟩
  | .ok (.other scheme) =>
      ⟨[], .error (.connectionFailed
        ("Unsupported scheme '" ++ scheme ++ "': expected ws:// or wss://"))⟩
  | .ok (.socket url) =>
      ⟨[.connecting url.text],
        match Handshake.refusal? text with
        | some cause => .error (.connectionFailed ("WebSocket: " ++ cause.message))
        | none => .ok url⟩

end ConsoleTap
