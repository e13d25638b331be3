import ConsoleTap.Log.File
import ConsoleTap.Settings.Source

/-!
# What a run needs of its system

A run asks its system for variables of the environment, for the home directory, for
files and for the log.  `Host` is what it can ask, in any monad; `Host.ofTree` answers
from an environment, a tree of files and other surroundings that are given as values.
-/

namespace ConsoleTap

/-- What a run can ask of the system it runs on. -/
structure Host (m : Type → Type) where
  /-- An environment with the variables of those names at least, as far as they are
      set to a text. -/
  environment : List String → m Environment
  /-- The home directory of the user: the one that the environment names, or else the one
      of the user's account. -/
  home : m (Option String)
  readText : String → m (Except FileFault String)
  /-- Makes a directory and those that are missing on the way to it. -/
  makeDirectories : String → m (Except FileFault Unit)
  /-- Opens the log file of the day in a directory. -/
  openLog : String → m (Except LogFileFault Unit)
  isFile : String → m Bool
  /-- What is wrong with a text as a pattern for the values of a field, if anything is. -/
  patternFault? : List Char → Option String

/-- What a system has beside an environment and a tree of files. -/
structure Surroundings where
  /-- The home directory of the user's account. -/
  accountHome? : Option String := none
  /-- What comes of opening the log file in a directory, with those files. The file itself
      is left out of the tree, as a run asks for nothing in it. -/
  openLog : Files.Tree → String → Except LogFileFault Unit := Log.openFile "2026-01-01"
  patternFault? : List Char → Option String := fun _ => none
deriving Inhabited

/-- The system with that environment whose files are a tree. -/
def Host.ofTree (env : Environment) (around : Surroundings := {}) : Host (StateM Files.Tree) where
  environment _ := pure env
  home := pure ((Settings.home? env).or around.accountHome?)
  readText path := do return (← get).readText path
  makeDirectories path := do
    match (← get).makeDirectories path with
    | .ok tree => do
        set tree
        return .ok ()
    | .error fault => return .error fault
  openLog directory := do return around.openLog (← get) directory
  isFile path := do return (← get).isFile path
  patternFault? := around.patternFault?

end ConsoleTap
