import ConsoleTap.Arguments
import ConsoleTap.Connection
import ConsoleTap.Host
import ConsoleTap.Log.Filter
import ConsoleTap.Settings.Rules

/-!
# A run of the program, up to the connection

A run reads its command line and its settings, puts the limits of the command line
in their places, sets up the log, checks the settings and then the address.  The
first of these steps that fails ends it: with the exit code 2 for the command
line, and for the others with the exit code 1 and a line that says why.

What the run logs is filtered, by the filter in the environment if there is one
that can be read, else by that of the settings.  A filter of which a part begins or
ends inside a character breaks the run off, with nothing said.

The run is that of `main` and `run`; `loadSettings` is `load_config` and
`setUpLog` is `init_tracing`.  Not modelled: output that cannot be written, and
threads that cannot be started.
-/

namespace ConsoleTap.Program

/-! ### The log -/

/-- A line of the log: the part of the program it is from, its level and its
    words. -/
structure LogRecord where
  part : String
  level : Level
  words : String
deriving DecidableEq, Repr, Inhabited

namespace LogRecord

def line (r : LogRecord) : String := r.level.name ++ " " ++ r.part ++ ": " ++ r.words

def mainPart : String := "cdpconsole"

def connectionPart : String := "cdpconsole_cdp::transport"

def ofWarning (r : Settings.Remark) : LogRecord := ⟨mainPart, .warn, r.setting ++ ": " ++ r.words⟩

def ofSettingsFile (path : String) : LogRecord := ⟨mainPart, .debug, "Loaded config from " ++ path⟩

def ofAddress (url : String) : LogRecord := ⟨mainPart, .info, "Connecting to " ++ url⟩

def ofNotice (n : Notice) : LogRecord := ⟨connectionPart, n.level, n.message⟩

def isShownBy (filter : List Log.Directive) (r : LogRecord) : Bool :=
  Log.shows filter r.part r.level

end LogRecord

/-- The variable that holds a filter for the log. -/
def filterVariable : String := "RUST_LOG"

/-- The filter for the log: that of the environment, if there is one that can be
    read, else that of the settings. -/
def filterOf (patternFault? : List Char → Option String) (env : Environment) (level : String) :
    Except Log.FilterFault (List Log.Directive) :=
  match (env.get? filterVariable).map (Log.readFilter patternFault?) with
  | some (.ok filter) => .ok filter
  | some (.error .torn) => .error .torn
  | _ => Log.readFilter patternFault? level

/-- Why the log could not be set up. -/
inductive LogFault where
  | filter (cause : Log.FilterFault)
  | directory (cause : FileFault)
  | file (cause : LogFileFault)
deriving DecidableEq, Repr, Inhabited

/-- What is said of a fault, if the program goes on to say anything. -/
def LogFault.message? : LogFault → Option String
  | .filter cause => cause.message?
  | .directory cause => some cause.message
  | .file cause => some cause.message

/-! ### Texts of the program -/

/-- What begins the program's own lines. -/
def statusMark : String := "[cdp-console]"

/-- The line that says why a run failed. -/
def failureLine (words : String) : String := statusMark ++ " Error: " ++ words ++ "\n"

def versionText : String := "cdpconsole 0.1.0\n"

def helpText : String :=
  "Stream console output from a Chrome DevTools Protocol target\n\n" ++
  "Usage: cdpconsole [OPTIONS] <URL>\n\n" ++
  "Arguments:\n" ++
  "  <URL>  WebSocket debugger URL, e.g. ws://127.0.0.1:9222/devtools/page/<id>\n\n" ++
  "Options:\n" ++
  "  -c, --config <CONFIG>\n" ++
  "          Configuration file path [default: ~/.cdpconsole/config.toml]\n" ++
  "      --depth <DEPTH>\n" ++
  "          Property-fetch depth for object arguments\n" ++
  "      --fetch-timeout-ms <FETCH_TIMEOUT_MS>\n" ++
  "          Timeout of each property fetch, in milliseconds\n" ++
  "      --connect-timeout-secs <CONNECT_TIMEOUT_SECS>\n" ++
  "          WebSocket connect timeout, in seconds\n" ++
  "  -h, --help\n" ++
  "          Print help\n" ++
  "  -V, --version\n" ++
  "          Print version\n"

/-! ### The run -/

/-- How a run goes on behind its checks. -/
inductive Outcome where
  /-- It ends with that exit code and output. -/
  | ended (code : Nat) (output : String)
  /-- It connects to a target, with those limits for the session. -/
  | connecting (url : Url.SocketUrl) (limits : SessionSettings)
deriving DecidableEq, Repr, Inhabited

/-- What a run logs, and how it goes on. -/
structure Result where
  log : List LogRecord := []
  outcome : Outcome
deriving DecidableEq, Repr, Inhabited

def failed (words : String) : Result := { outcome := .ended 1 (failureLine words) }

/-- The exit code, to a shell, of a run that is broken off: as it is released, the program
    aborts, which is the system's signal 6. -/
def brokenOffCode : Nat := 128 + 6

def brokenOff : Result := { outcome := .ended brokenOffCode "" }

def Result.ofLogFault (fault : LogFault) : Result := fault.message?.elim brokenOff failed

def Result.ofUsage : UsageFault → Result
  | .helpWanted => { outcome := .ended 0 helpText }
  | .versionWanted => { outcome := .ended 0 versionText }
  | _ => { outcome := .ended 2 "" }

/-- The checks behind the log's setting up: the rules for settings, then the
    address. -/
def check (i : Invocation) (settings : Settings) (filter : List Log.Directive)
    (isFile : String → Bool) : Result :=
  match (settings.check isFile).result with
  | .error fault => failed fault.message
  | .ok warnings =>
      let attempt := Attempt.ofAddress i.url
      let records :=
        warnings.map .ofWarning ++ (i.config.map LogRecord.ofSettingsFile).toList ++
          [.ofAddress i.url] ++ attempt.notices.map .ofNotice
      { log := records.filter (·.isShownBy filter)
        outcome :=
          match attempt.result with
          | .ok url => .connecting url settings.session
          | .error fault => .ended 1 (failureLine fault.message) }

variable {m : Type → Type} [Monad m]

/-- The environment for the settings in a text. -/
def environmentFor (host : Host m) (content : Except FileFault String) : m Environment :=
  host.environment
    (match content with
    | .ok text => (Settings.references text.toList).map String.ofList
    | .error _ => [])

/-- Reads the settings: from the file that the command line names, or from the one
    in the home directory, which may be missing. -/
def loadSettings (host : Host m) (config : Option String) : m (Except SettingsFault Settings) := do
  let home? ← host.home
  match config with
  | some path =>
      let content ← host.readText path
      return Settings.ofFile (← environmentFor host content) path content home?
  | none =>
      match home? with
      | none => return .ok {}
      | some home =>
          let path := Settings.homeFile home
          let content ← host.readText path
          return Settings.ofOptionalFile (← environmentFor host content) path content home?

/-- Sets up the log: its filter, then its directory and the file in it. -/
def setUpLog (host : Host m) (logging : LoggingSettings) :
    m (Except LogFault (List Log.Directive)) := do
  match filterOf host.patternFault? (← host.environment [filterVariable]) logging.level with
  | .error cause => return .error (.filter cause)
  | .ok filter =>
      match logging.dir with
      | none => return .ok filter
      | some dir =>
          match ← host.makeDirectories dir with
          | .error cause => return .error (.directory cause)
          | .ok () =>
              match ← host.openLog dir with
              | .error cause => return .error (.file cause)
              | .ok () => return .ok filter

def runInvocation (host : Host m) (i : Invocation) : m Result := do
  match ← loadSettings host i.config with
  | .error fault => return failed fault.message
  | .ok settings =>
      let settings := { settings with session := i.override settings.session }
      match ← setUpLog host settings.logging with
      | .error fault => return .ofLogFault fault
      | .ok filter =>
          let isFile ← (settings.logging.dir.map host.isFile).getD (pure false)
          return check i settings filter fun _ => isFile

def run (host : Host m) (arguments : List String) : m Result :=
  match Arguments.read arguments with
  | .error fault => return .ofUsage fault
  | .ok i => runInvocation host i

end ConsoleTap.Program
