/-!
# Why a file could not be used

The reasons of the operating system, with its words and numbers for them, and three
that are found before it is asked or after it has answered.
-/

namespace ConsoleTap

/-- What the system says when it refuses something, and its number for that. -/
structure SystemFault where
  words : String
  number : Nat
deriving DecidableEq, Repr, Inhabited

def SystemFault.message (f : SystemFault) : String :=
  f.words ++ " (os error " ++ toString f.number ++ ")"

/-- Why a file or directory could not be used. -/
inductive FileFault where
  | notFound
  | alreadyExists
  | notADirectory
  | isADirectory
  | nameTooLong
  | nulInName
  /-- What the file holds is no text. -/
  | notText
  /-- None of the directories on the way to one is there, and there is no place to begin. -/
  | noTree
  /-- Any other reason of the system, such as a missing permission or a full disk. -/
  | refused (cause : SystemFault)
deriving DecidableEq, Repr, Inhabited

def FileFault.message : FileFault → String
  | .notFound => "No such file or directory (os error 2)"
  | .alreadyExists => "File exists (os error 17)"
  | .notADirectory => "Not a directory (os error 20)"
  | .isADirectory => "Is a directory (os error 21)"
  | .nameTooLong => "File name too long (os error 36)"
  | .nulInName => "file name contained an unexpected NUL byte"
  | .notText => "stream did not contain valid UTF-8"
  | .noTree => "failed to create whole tree"
  | .refused cause => cause.message

end ConsoleTap
