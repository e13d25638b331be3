import ConsoleTap.Files.Tree
import ConsoleTap.Settings.Basic
import ConsoleTap.Settings.Environment

/-!
# Where settings come from

Settings come from the text of a file: its references to the environment are
replaced, the result is read as TOML, and the home directory is put in front of a
log directory that begins with a tilde.  The file in the home directory is read
when no other one is named; that one may be missing.

`ofText` is `load_str`, `ofFile` is `load`, `ofOptionalFile` is `load_or_default`,
`homeFile` is `default_path` and `expandHome` is `expand_path`.
-/

namespace ConsoleTap

/-- Why settings could not be used. -/
inductive SettingsFault where
  | notFound (path : String)
  | variableNotSet (name : String)
  | unreadable (cause : FileFault)
  /-- The text is no TOML document, or a setting in it has the wrong shape. -/
  | malformed
  | invalid (setting words : String)
deriving DecidableEq, Repr, Inhabited

/-- What begins the message about a malformed document. -/
def malformedMark : String := "TOML parse error: "

def SettingsFault.message : SettingsFault → String
  | .notFound path => "Config file not found: " ++ path
  | .variableNotSet name => "Environment variable not set: " ++ name
  | .unreadable cause => "IO error: " ++ cause.message
  | .malformed => malformedMark ++ "the settings could not be read"
  | .invalid setting words => "Invalid value for " ++ setting ++ ": " ++ words

namespace Settings

/-! ### The home directory -/

/-- The home directory that an environment names. Where it names none the system may
    still know one for the user (`Host.home`). -/
def home? (env : Environment) : Option String := (env.get? "HOME").filter (· ≠ "")

/-- A path with the home directory in the place of a tilde at its front, if the
    tilde is all of the path or a slash follows it. -/
def expandHome (home : Option String) (path : String) : String :=
  match home, path.toList with
  | some home, ['~'] => home
  | some home, '~' :: '/' :: rest => home ++ String.ofList ('/' :: rest)
  | _, _ => path

/-- The file that is read when no other one is named. -/
def homeFile (home : String) : String :=
  Files.Tree.join (Files.Tree.join home ".cdpconsole") "config.toml"

/-! ### Reading -/

/-- Reads settings from a text, for a user with that home directory. -/
def ofText (env : Environment) (text : String) (home : Option String := home? env) :
    Except SettingsFault Settings :=
  match expand env text with
  | .error name => .error (.variableNotSet name)
  | .ok expanded =>
      match ofToml? expanded with
      | none => .error .malformed
      | some s =>
          .ok { s with logging := { s.logging with dir := s.logging.dir.map (expandHome home) } }

/-- Reads settings from what was found in the file of a path. -/
def ofFile (env : Environment) (path : String) (content : Except FileFault String)
    (home : Option String := home? env) : Except SettingsFault Settings :=
  match content with
  | .ok text => ofText env text home
  | .error .notFound => .error (.notFound path)
  | .error cause => .error (.unreadable cause)

/-- Reads settings from what was found in a file that may be missing. -/
def ofOptionalFile (env : Environment) (path : String) (content : Except FileFault String)
    (home : Option String := home? env) : Except SettingsFault Settings :=
  match ofFile env path content home with
  | .error (.notFound _) => .ok {}
  | result => result

end Settings
end ConsoleTap
