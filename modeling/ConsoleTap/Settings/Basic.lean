import ConsoleTap.Duration
import ConsoleTap.Toml.Document

/-!
# Settings

What the user can set, with its defaults: limits for the session, and where the
diagnostic log goes.  Settings are read from a TOML document with a section for
each of the two.  A section is a table, of which unknown names are skipped, or an
array that gives the settings in order; settings that are absent keep their
defaults.  A moment counts as a section without known names.

The sections are `SessionConfig` and `LoggingConfig`.
-/

namespace ConsoleTap

structure SessionSettings where
  connectTimeoutSecs : Nat := 10
  fetchTimeoutMs : Nat := 2000
  maxDepth : Nat := 2
deriving DecidableEq, Repr, Inhabited

namespace SessionSettings

def connectTimeout (s : SessionSettings) : Duration := .ofSeconds s.connectTimeoutSecs

def fetchTimeout (s : SessionSettings) : Duration := .ofMillis s.fetchTimeoutMs

end SessionSettings

structure LoggingSettings where
  /-- The filter for the log, unless the environment gives one. -/
  level : String := "warn"
  /-- The directory of the log files, if there are to be any. -/
  dir : Option String := none
deriving DecidableEq, Repr, Inhabited

structure Settings where
  session : SessionSettings := {}
  logging : LoggingSettings := {}
deriving DecidableEq, Repr, Inhabited

namespace Settings

open ConsoleTap.Toml

/-! ### Reading sections -/

/-- A setting of a section: its name, and how its value is put in its place. -/
structure Entry (S : Type) where
  name : String
  store : Value → S → Option S

def readSection {S : Type} (entries : List (Entry S)) (defaults : S) : Value → Option S
  | .table members =>
      members.foldlM
        (fun s m =>
          match entries.find? (fun e => e.name = m.1) with
          | some e => e.store m.2 s
          | none => some s)
        defaults
  | .array items => (entries.zip items).foldlM (fun s p => p.1.store p.2 s) defaults
  | .moment _ => some defaults
  | _ => none

/-! ### Reading values -/

/-- Reads an integer from zero to `limit`. -/
def readCount (limit : Nat) : Value → Option Nat
  | .integer n => if 0 ≤ n ∧ n ≤ limit then some n.toNat else none
  | _ => none

def readText : Value → Option String
  | .string s => some s
  | _ => none

/-! ### The sections -/

def maxLimit : Nat := 1 <<< 64 - 1

def maxMaxDepth : Nat := 1 <<< 32 - 1

def sessionEntries : List (Entry SessionSettings) :=
  [⟨"connect_timeout_secs", fun v s =>
      (readCount maxLimit v).map fun n => { s with connectTimeoutSecs := n }⟩,
    ⟨"fetch_timeout_ms", fun v s =>
      (readCount maxLimit v).map fun n => { s with fetchTimeoutMs := n }⟩,
    ⟨"max_depth", fun v s => (readCount maxMaxDepth v).map fun n => { s with maxDepth := n }⟩]

def loggingEntries : List (Entry LoggingSettings) :=
  [⟨"level", fun v s => (readText v).map fun t => { s with level := t }⟩,
    ⟨"dir", fun v s => (readText v).map fun t => { s with dir := some t }⟩]

def entries : List (Entry Settings) :=
  [⟨"session", fun v s =>
      (readSection sessionEntries {} v).map fun limits => { s with session := limits }⟩,
    ⟨"logging", fun v s =>
      (readSection loggingEntries {} v).map fun logging => { s with logging := logging }⟩]

def ofToml? (text : String) : Option Settings :=
  (Document.read? text).bind (readSection entries {})

end Settings
end ConsoleTap
