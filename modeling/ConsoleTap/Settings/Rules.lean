import ConsoleTap.Settings.Source
import ConsoleTap.Text.Blank
import ConsoleTap.Text.Quoted

/-!
# The rules for settings

Settings that can be read need not make sense.  A broken rule is an error or a
warning; `check` lists both in the order of the rules, and the first error, if
there is one, is what the settings are refused for.

The rules are those of `validate`; `Verdict.result` is `into_result`.
-/

namespace ConsoleTap.Settings

/-- A remark on a setting. -/
structure Remark where
  setting : String
  words : String
deriving DecidableEq, Repr, Inhabited

structure Verdict where
  errors : List Remark
  warnings : List Remark
deriving DecidableEq, Repr, Inhabited

/-- Whether no rule forbids the settings. -/
def Verdict.isValid (v : Verdict) : Bool := v.errors.isEmpty

/-- The warnings, unless there is an error. -/
def Verdict.result (v : Verdict) : Except SettingsFault (List Remark) :=
  match v.errors with
  | [] => .ok v.warnings
  | e :: _ => .error (.invalid e.setting e.words)

/-- The greatest depth without a warning. -/
def highDepth : Nat := 8

def sessionErrors (s : SessionSettings) : List Remark :=
  (if s.connectTimeoutSecs = 0 then
    [⟨"session.connect_timeout_secs", "connect_timeout_secs must be greater than 0"⟩] else []) ++
  (if s.fetchTimeoutMs = 0 then
    [⟨"session.fetch_timeout_ms", "fetch_timeout_ms must be greater than 0"⟩] else [])

def sessionWarnings (s : SessionSettings) : List Remark :=
  if highDepth < s.maxDepth then
    [⟨"session.max_depth", "max_depth is very high (>" ++ toString highDepth ++
      "), each level may issue one fetch per property"⟩]
  else []

/-- The errors of the log's settings, given which paths lead to files. -/
def loggingErrors (isFile : String → Bool) (s : LoggingSettings) : List Remark :=
  (if Text.isAllBlank s.level then [⟨"logging.level", "Log level cannot be empty"⟩] else []) ++
  (match s.dir with
    | none => []
    | some dir =>
        if isFile dir then [⟨"logging.dir", "Log directory is a file: " ++ Text.quoted dir⟩] else [])

/-- What the rules say, given which paths lead to files. -/
def check (isFile : String → Bool) (s : Settings) : Verdict where
  errors := sessionErrors s.session ++ loggingErrors isFile s.logging
  warnings := sessionWarnings s.session

end ConsoleTap.Settings
