import ConsoleTap.Files.Tree

/-!
# Log files

If a directory is given for it, the log is also kept in a file there, a new one every
day.  The file of the day is opened when the log is set up; if that fails, the directory
is made once more and the file is tried again.

Not modelled: what is written to these files, and how old ones are removed.

The files are those of `RollingFileAppender`, as `init_tracing` sets it up.
-/

namespace ConsoleTap

/-- Why the file of a log could not be opened. -/
inductive LogFileFault where
  | directory (cause : FileFault)
  | file (cause : FileFault)
deriving DecidableEq, Repr, Inhabited

def LogFileFault.message : LogFileFault → String
  | .directory cause => "failed to create log directory: " ++ cause.message
  | .file cause => "failed to create initial log file: " ++ cause.message

namespace Log

/-- The name of the log file of a date, which is written as in `2026-01-31`. -/
def fileName (date : String) : String := "cdpconsole." ++ date ++ ".log"

/-- Opens the log file of a date in a directory. -/
def openFile (date : String) (t : Files.Tree) (directory : String) : Except LogFileFault Unit :=
  let path := Files.Tree.join directory (fileName date)
  match t.openToAppend path with
  | .ok () => .ok ()
  | .error _ =>
      match t.makeDirectories directory with
      | .error cause => .error (.directory cause)
      | .ok t => (t.openToAppend path).mapError .file

end Log
end ConsoleTap
