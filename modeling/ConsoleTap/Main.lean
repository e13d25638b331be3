import ConsoleTap.Program

/-!
# The command line

The program on the system it runs on: the library decides, and what is here asks
the system and prints.  No channel to a target is part of it, so a run that gets as
far as connecting ends there.
-/

namespace ConsoleTap

/-- The reason that a number of the system stands for; some of its functions negate
    the number. -/
def FileFault.ofNumber (code : UInt32) (words : String) : FileFault :=
  match code.toInt32.toInt.natAbs with
  | 2 => .notFound
  | 17 => .alreadyExists
  | 20 => .notADirectory
  | 21 => .isADirectory
  | 22 => .nulInName
  | 36 => .nameTooLong
  | n => .refused ⟨words, n⟩

/-- The reason that the system gives for refusing a file. -/
def FileFault.ofError : IO.Error → FileFault
  | .noFileOrDirectory _ code words => .ofNumber code words
  | .alreadyExists _ code words => .ofNumber code words
  | .inappropriateType _ code words => .ofNumber code words
  | .invalidArgument _ code words => .ofNumber code words
  | .permissionDenied _ code words => .ofNumber code words
  | .resourceExhausted _ code words => .ofNumber code words
  | .resourceBusy code words => .ofNumber code words
  | .resourceVanished code words => .ofNumber code words
  | .unsupportedOperation code words => .ofNumber code words
  | .hardwareFault code words => .ofNumber code words
  | .unsatisfiedConstraints code words => .ofNumber code words
  | .illegalOperation code words => .ofNumber code words
  | .protocolError code words => .ofNumber code words
  | .timeExpired code words => .ofNumber code words
  | .interrupted _ code words => .ofNumber code words
  | .noSuchThing _ code words => .ofNumber code words
  | .otherError code words => .ofNumber code words
  | .unexpectedEof => .refused ⟨"unexpected end of file", 0⟩
  | .userError words => .refused ⟨words, 0⟩

/-- An action on files, with its fault as a value. -/
def tried {α : Type} (action : IO α) : IO (Except FileFault α) := do
  match ← action.toBaseIO with
  | .ok a => return .ok a
  | .error e => return .error (.ofError e)

/-- Variables of the system's environment. -/
def environmentOf (names : List String) : IO Environment := do
  let entries ← names.filterMapM fun name => do
    return (← IO.getEnv name).map fun value => (name, value)
  return ⟨entries⟩

/-- The system itself. It is not asked for the user's account or for the date, which the name of
    the log file lacks, and every text passes for a pattern. -/
def Host.ofSystem : Host IO where
  environment := environmentOf
  home := do return Settings.home? (← environmentOf ["HOME"])
  readText path := do
    match ← tried (IO.FS.readBinFile path) with
    | .error fault => return .error fault
    | .ok content =>
        match String.fromUTF8? content with
        | some text => return .ok text
        | none => return .error .notText
  makeDirectories path :=
    if path = "" then return .ok () else tried (IO.FS.createDirAll path)
  openLog directory := do
    let path := Files.Tree.join directory "cdpconsole.log"
    return (← tried (do discard (IO.FS.Handle.mk path .append))).mapError .file
  isFile path := do
    match ← tried (do return (← (← IO.FS.realPath path).metadata).type == .file) with
    | .ok found => return found
    | .error _ => return false
  patternFault? _ := none

/-- The line that says why a run goes no further than connecting. -/
def noChannelLine (url : Url.SocketUrl) : String :=
  Program.failureLine ("Connection failed: no channel to " ++ url.text)

end ConsoleTap

open ConsoleTap in
def main (arguments : List String) : IO UInt32 := do
  let result ← Program.run Host.ofSystem arguments
  for record in result.log do
    IO.eprintln record.line
  match result.outcome with
  | .ended code output => do
      IO.print output
      return UInt32.ofNat code
  | .connecting url _ => do
      IO.print (noChannelLine url)
      return 1
