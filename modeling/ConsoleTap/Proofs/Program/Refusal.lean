import ConsoleTap.Program
import ConsoleTap.Proofs.Files.Directories
import ConsoleTap.Proofs.Log.Filter
import Mathlib

/-!
# Settings that break a rule

A run whose settings break a rule never connects.  How it ends depends on the log, because
the log is set up first.  If that succeeds, the run ends with the exit code 1 and a line that
names the first rule that is broken.  If it does not, what is wrong with the filter, with the
log's directory or with the file in it is told instead, whatever rules are broken; and a filter
that is torn breaks the run off.  A log directory that is a file is always found in this way,
never by the rule about it.
-/

namespace ConsoleTap.Program

open ConsoleTap.Files (Tree)

variable {env : Environment} {around : Surroundings} {t t' : Tree} {i : Invocation}
  {settings : Settings} {logging : LoggingSettings} {isFile : String → Bool}
  {field words : String} {fault : LogFault}

/-! ### The first broken rule -/

/-- The first rule that settings break, given which paths lead to files: the setting that it is about
    and what it says. -/
inductive FirstBroken (isFile : String → Bool) (s : Settings) : String → String → Prop where
  | connectTimeout (h : s.session.connectTimeoutSecs = 0) :
      FirstBroken isFile s "session.connect_timeout_secs"
        "connect_timeout_secs must be greater than 0"
  | fetchTimeout (hconnect : s.session.connectTimeoutSecs ≠ 0) (h : s.session.fetchTimeoutMs = 0) :
      FirstBroken isFile s "session.fetch_timeout_ms" "fetch_timeout_ms must be greater than 0"
  | level (hconnect : s.session.connectTimeoutSecs ≠ 0) (hfetch : s.session.fetchTimeoutMs ≠ 0)
      (h : Text.isAllBlank s.logging.level = true) :
      FirstBroken isFile s "logging.level" "Log level cannot be empty"
  | directory {dir : String} (hconnect : s.session.connectTimeoutSecs ≠ 0)
      (hfetch : s.session.fetchTimeoutMs ≠ 0) (hlevel : Text.isAllBlank s.logging.level = false)
      (hdir : s.logging.dir = some dir) (h : isFile dir = true) :
      FirstBroken isFile s "logging.dir" ("Log directory is a file: " ++ Text.quoted dir)

/-- The rules are checked in the order in which they are listed. -/
theorem head?_errors_iff :
    (settings.check isFile).errors.head? = some ⟨field, words⟩ ↔
      FirstBroken isFile settings field words := by
  rw [Settings.check, Settings.sessionErrors, Settings.loggingErrors]
  constructor
  · -- the list begins with the first rule that is broken
    intro h
    by_cases hconnect : settings.session.connectTimeoutSecs = 0
    · simp [hconnect] at h
      obtain ⟨rfl, rfl⟩ := h
      exact .connectTimeout hconnect
    by_cases hfetch : settings.session.fetchTimeoutMs = 0
    · simp [hconnect, hfetch] at h
      obtain ⟨rfl, rfl⟩ := h
      exact .fetchTimeout hconnect hfetch
    by_cases hlevel : Text.isAllBlank settings.logging.level = true
    · simp [hconnect, hfetch, hlevel] at h
      obtain ⟨rfl, rfl⟩ := h
      exact .level hconnect hfetch hlevel
    cases hdir : settings.logging.dir with
    | none => simp [hconnect, hfetch, hlevel, hdir] at h
    | some dir =>
        by_cases hfile : isFile dir = true
        · simp [hconnect, hfetch, hlevel, hdir, hfile] at h
          obtain ⟨rfl, rfl⟩ := h
          exact .directory hconnect hfetch (by simpa using hlevel) hdir hfile
        · simp [hconnect, hfetch, hlevel, hdir, hfile] at h
  · intro h
    cases h with
    | connectTimeout h => simp [h]
    | fetchTimeout hconnect h => simp [hconnect, h]
    | level hconnect hfetch h => simp [hconnect, hfetch, h]
    | directory hconnect hfetch hlevel hdir h => simp [hconnect, hfetch, hlevel, hdir, h]

/-! ### Loading -/

/-- Loading settings changes no file. -/
theorem loadSettings_tree (config : Option String) :
    ((loadSettings (Host.ofTree env around) config).run t).2 = t := by
  cases config with
  | some path => rfl
  | none =>
      unfold loadSettings
      cases h : (Settings.home? env).or around.accountHome? <;>
        simp only [Host.ofTree, pure_bind, h] <;> rfl

/-! ### Setting up the log -/

/-- What becomes of the log: its filter and the files with its directory among them, or what is
    wrong. -/
def logSetUp (env : Environment) (around : Surroundings) (t : Tree) (logging : LoggingSettings) :
    Except LogFault (List Log.Directive × Tree) :=
  match filterOf around.patternFault? env logging.level with
  | .error cause => .error (.filter cause)
  | .ok filter =>
      match logging.dir with
      | none => .ok (filter, t)
      | some dir =>
          match t.makeDirectories dir with
          | .error cause => .error (.directory cause)
          | .ok t' =>
              match around.openLog t' dir with
              | .error cause => .error (.file cause)
              | .ok () => .ok (filter, t')

theorem setUpLog_run (logging : LoggingSettings) :
    ∃ after, (setUpLog (Host.ofTree env around) logging).run t =
      match logSetUp env around t logging with
      | .error fault => (.error fault, after)
      | .ok (filter, t') => (.ok filter, t') := by
  unfold setUpLog logSetUp
  simp only [Host.ofTree, pure_bind]
  cases filterOf around.patternFault? env logging.level with
  | error cause => exact ⟨t, rfl⟩
  | ok filter =>
      cases logging.dir with
      | none => exact ⟨t, rfl⟩
      | some dir =>
          simp
          cases t.makeDirectories dir with
          | error cause => exact ⟨t, rfl⟩
          | ok t' =>
              refine ⟨t', ?_⟩
              simp
              cases around.openLog t' dir with
              | error cause => rfl
              | ok _ => rfl

theorem runInvocation_run
    (hload : ((loadSettings (Host.ofTree env around) i.config).run t).1 = .ok settings) :
    ((runInvocation (Host.ofTree env around) i).run t).1 =
      match logSetUp env around t settings.logging with
      | .error fault => .ofLogFault fault
      | .ok (filter, t') =>
          check i { settings with session := i.override settings.session } filter
            fun _ => (settings.logging.dir.map t'.isFile).getD false := by
  have hloaded : (loadSettings (Host.ofTree env around) i.config).run t = (.ok settings, t) :=
    Prod.ext hload (loadSettings_tree i.config)
  obtain ⟨after, hsetUp⟩ := @setUpLog_run env around t settings.logging
  unfold runInvocation
  rw [StateT.run_bind, hloaded]
  -- the settings are there, so the run goes on with the log
  change ((setUpLog (Host.ofTree env around) settings.logging >>= _).run t).1 = _
  rw [StateT.run_bind, hsetUp]
  cases logSetUp env around t settings.logging with
  | error fault => rfl
  | ok x =>
      obtain ⟨filter, t'⟩ := x
      cases settings.logging.dir with
      | none => rfl
      | some dir => rfl

/-! ### Runs with a broken rule -/

theorem check_of_broken {filter : List Log.Directive}
    (h : FirstBroken isFile settings field words) :
    check i settings filter isFile = failed ("Invalid value for " ++ field ++ ": " ++ words) := by
  obtain ⟨rest, herrors⟩ := List.head?_eq_some_iff.mp (head?_errors_iff.mpr h)
  have hresult : (settings.check isFile).result = .error (.invalid field words) := by
    rw [Settings.Verdict.result, herrors]
  rw [check, hresult]
  rfl

/-- Once the log is set up its directory is no file, so which paths lead to files does not matter any
    more. -/
theorem FirstBroken.of_setUp {filter : List Log.Directive}
    (h : FirstBroken t.isFile settings field words)
    (hsetUp : logSetUp env around t settings.logging = .ok (filter, t')) :
    FirstBroken isFile settings field words := by
  cases h with
  | connectTimeout h => exact .connectTimeout h
  | fetchTimeout hconnect h => exact .fetchTimeout hconnect h
  | level hconnect hfetch h => exact .level hconnect hfetch h
  | directory hconnect hfetch hlevel hdir h =>
      rw [logSetUp] at hsetUp
      split at hsetUp
      · cases hsetUp
      · simp only [hdir, Tree.makeDirectories_of_isFile h] at hsetUp
        cases hsetUp

theorem run_of_broken {arguments : List String} (hread : Arguments.read arguments = .ok i)
    (hload : ((loadSettings (Host.ofTree env around) i.config).run t).1 = .ok settings)
    (hbroken : FirstBroken t.isFile { settings with session := i.override settings.session } field
      words) :
    ((run (Host.ofTree env around) arguments).run t).1 =
      match logSetUp env around t settings.logging with
      | .error fault => .ofLogFault fault
      | .ok _ => failed ("Invalid value for " ++ field ++ ": " ++ words) := by
  rw [run, hread]
  simp only
  rw [runInvocation_run hload]
  cases hsetUp : logSetUp env around t settings.logging with
  | error fault => rfl
  | ok x =>
      obtain ⟨filter, t'⟩ := x
      exact check_of_broken (hbroken.of_setUp hsetUp)

/-! ### Logs that cannot be set up -/

/-- The log can be set up: there is a filter for it, and if it has a directory, that can be made
    and the log file in it can be opened. -/
structure LogReady (env : Environment) (around : Surroundings) (t : Tree)
    (logging : LoggingSettings) : Prop where
  filter : ∃ filter, filterOf around.patternFault? env logging.level = .ok filter
  file : ∀ dir, logging.dir = some dir →
    ∃ t', t.makeDirectories dir = .ok t' ∧ around.openLog t' dir = .ok ()

/-- What keeps the log from being set up: the first of the three that fails. -/
inductive LogFails (env : Environment) (around : Surroundings) (t : Tree)
    (logging : LoggingSettings) : LogFault → Prop where
  | filter {cause : Log.FilterFault}
      (h : filterOf around.patternFault? env logging.level = .error cause) :
      LogFails env around t logging (.filter cause)
  | directory {filter : List Log.Directive} {dir : String} {cause : FileFault}
      (hfilter : filterOf around.patternFault? env logging.level = .ok filter)
      (hdir : logging.dir = some dir) (h : t.makeDirectories dir = .error cause) :
      LogFails env around t logging (.directory cause)
  | file {filter : List Log.Directive} {dir : String} {t' : Tree} {cause : LogFileFault}
      (hfilter : filterOf around.patternFault? env logging.level = .ok filter)
      (hdir : logging.dir = some dir) (hmade : t.makeDirectories dir = .ok t')
      (h : around.openLog t' dir = .error cause) : LogFails env around t logging (.file cause)

theorem logSetUp_eq_error_iff :
    logSetUp env around t logging = .error fault ↔ LogFails env around t logging fault := by
  constructor
  · intro h
    rw [logSetUp] at h
    split at h
    · cases h
      exact .filter ‹_›
    · split at h
      · cases h
      · split at h
        · cases h
          exact .directory ‹_› ‹_› ‹_›
        · split at h
          · cases h
            exact .file ‹_› ‹_› ‹_› ‹_›
          · cases h
  · intro h
    cases h with
    | filter h => simp only [logSetUp, h]
    | directory hfilter hdir h => simp only [logSetUp, hfilter, hdir, h]
    | file hfilter hdir hmade h => simp only [logSetUp, hfilter, hdir, hmade, h]

theorem exists_logSetUp_eq_ok_iff :
    (∃ x, logSetUp env around t logging = .ok x) ↔ LogReady env around t logging := by
  constructor
  · rintro ⟨x, h⟩
    rw [logSetUp] at h
    split at h
    · cases h
    · rename_i filter hfilter
      refine ⟨⟨filter, hfilter⟩, fun dir hdir => ?_⟩
      simp only [hdir] at h
      split at h
      · cases h
      · split at h
        · cases h
        · exact ⟨_, ‹_›, ‹_›⟩
  · rintro ⟨⟨filter, hfilter⟩, hfile⟩
    rw [logSetUp, hfilter]
    cases hdir : logging.dir with
    | none => exact ⟨_, rfl⟩
    | some dir =>
        obtain ⟨t', hmade, hopened⟩ := hfile dir hdir
        exact ⟨(filter, t'), by simp only [hmade, hopened]⟩

theorem not_ready_of_error (h : logSetUp env around t logging = .error fault) :
    ¬ LogReady env around t logging := by
  intro hready
  obtain ⟨x, hx⟩ := exists_logSetUp_eq_ok_iff.mpr hready
  cases h.symm.trans hx

/-- A filter that is torn has white space in front of a directive. -/
theorem exists_blank_of_filterOf {patternFault? : List Char → Option String} {level : String}
    (h : filterOf patternFault? env level = .error .torn) :
    ∃ text, (env.get? filterVariable = some text ∨ text = level) ∧
      ∃ part ∈ Text.splitOn ',' text.toList, ∃ c ∈ part.head?, Text.isBlank c = true := by
  rw [filterOf] at h
  split at h
  · cases h
  · rename_i hread
    obtain ⟨text, htext, htorn⟩ := Option.map_eq_some_iff.mp hread
    exact ⟨text, .inl htext, Log.exists_blank_of_torn htorn⟩
  · exact ⟨level, .inr rfl, Log.exists_blank_of_torn h⟩

/-- Only of such a filter nothing is said. -/
theorem LogFails.exists_blank (h : LogFails env around t logging fault)
    (hsilent : fault.message? = none) :
    ∃ text, (env.get? filterVariable = some text ∨ text = logging.level) ∧
      ∃ part ∈ Text.splitOn ',' text.toList, ∃ c ∈ part.head?, Text.isBlank c = true := by
  cases h with
  | @filter cause h =>
      cases cause with
      | torn => exact exists_blank_of_filterOf h
      | _ => cases hsilent
  | directory _ _ _ => cases hsilent
  | file _ _ _ _ => cases hsilent

/-! ### The words of a rule -/

/-- What the system says of a refusal ends with a bracket. -/
theorem getLast?_message (cause : SystemFault) : cause.message.toList.getLast? = some ')' := by
  rw [SystemFault.message, String.toList_append]
  exact List.getLast?_concat

theorem take_message (cause : LogFileFault) : cause.message.toList.take 2 = ['f', 'a'] := by
  cases cause with
  | directory cause =>
      change ("failed to create log directory: " ++ cause.message).toList.take 2 = ['f', 'a']
      rw [String.toList_append]
      simp
  | file cause =>
      change ("failed to create initial log file: " ++ cause.message).toList.take 2 = ['f', 'a']
      rw [String.toList_append]
      simp

/-- What a rule says ends with something else. -/
theorem FirstBroken.exists_getLast (h : FirstBroken isFile settings field words) :
    ∃ c, words.toList.getLast? = some c ∧ c ≠ ')' := by
  cases h with
  | connectTimeout _ => exact ⟨'0', rfl, by decide⟩
  | fetchTimeout _ _ => exact ⟨'0', rfl, by decide⟩
  | level _ _ _ => exact ⟨'y', rfl, by decide⟩
  | @directory dir _ _ _ _ _ =>
      have hquote : (Text.quoted dir).toList.getLast? = some '"' := by
        rw [Text.quoted, String.toList_ofList]
        exact List.getLast?_concat
      refine ⟨'"', ?_, by decide⟩
      rw [String.toList_append, List.getLast?_append, hquote]
      rfl

/-- What is wrong with the log is never told in the words of a rule. -/
theorem FirstBroken.ne_message (h : FirstBroken isFile settings field words) {message : String}
    (hfault : fault.message? = some message) :
    message ≠ "Invalid value for " ++ field ++ ": " ++ words := by
  intro heq
  -- two letters at the front or the last one tell them apart
  have hfront : message.toList.take 2 = ['I', 'n'] := by
    rw [heq, String.append_assoc, String.append_assoc, String.toList_append]
    rfl
  have hend : message.toList.getLast? ≠ some ')' := by
    obtain ⟨c, hc, hne⟩ := h.exists_getLast
    rw [heq, String.toList_append, List.getLast?_append, hc]
    simpa using hne
  cases fault with
  | filter cause =>
      cases cause with
      | torn => cases hfault
      | pattern reason =>
          cases hfault
          rw [String.toList_append] at hfront
          cases hfront
      | _ =>
          cases hfault
          revert hfront
          decide
  | directory cause =>
      cases cause with
      | refused cause =>
          cases hfault
          exact hend (getLast?_message cause)
      | _ =>
          cases hfault
          revert hfront
          decide
  | file cause =>
      cases hfault
      rw [take_message] at hfront
      cases hfront

theorem failureLine_inj {a b : String} (h : failureLine a = failureLine b) : a = b := by
  have hchars := congrArg String.toList h
  simpa [failureLine, String.toList_append, String.toList_inj] using hchars

theorem Result.ofLogFault_of_message {message : String} (h : fault.message? = some message) :
    Result.ofLogFault fault = failed message := by
  rw [Result.ofLogFault, h, Option.elim_some]

theorem Result.ofLogFault_of_silent (h : fault.message? = none) :
    Result.ofLogFault fault = brokenOff := by
  rw [Result.ofLogFault, h, Option.elim_none]

theorem Result.ofLogFault_log (fault : LogFault) : (Result.ofLogFault fault).log = [] := by
  cases h : fault.message? with
  | none => rw [Result.ofLogFault_of_silent h, brokenOff]
  | some message => rw [Result.ofLogFault_of_message h, failed]

/-- What is wrong with the log never ends a run the way that a rule does. -/
theorem FirstBroken.outcome_ne (h : FirstBroken isFile settings field words) (fault : LogFault) :
    (Result.ofLogFault fault).outcome ≠
      .ended 1 (failureLine ("Invalid value for " ++ field ++ ": " ++ words)) := by
  intro heq
  cases hfault : fault.message? with
  | none =>
      rw [Result.ofLogFault_of_silent hfault] at heq
      exact absurd (Outcome.ended.inj heq).1 (by decide)
  | some message =>
      rw [Result.ofLogFault_of_message hfault] at heq
      exact h.ne_message hfault (failureLine_inj (Outcome.ended.inj heq).2)

/-- A log directory that is a file keeps the log from being set up. -/
theorem FirstBroken.not_ready (h : FirstBroken t.isFile settings field words)
    (hfield : field = "logging.dir") : ¬ LogReady env around t settings.logging := by
  rintro ⟨-, hfile⟩
  cases h with
  | directory _ _ _ hdir h =>
      obtain ⟨t', hmade, -⟩ := hfile _ hdir
      cases (Tree.makeDirectories_of_isFile h).symm.trans hmade
  | _ => exact absurd hfield (by decide)

/-- Settings that break a rule end the run before anything is connected to.  They do so with the
    exit code 1 and a line that names the first broken rule exactly if the log can be set up; else
    the run ends with the first thing that is wrong with the log, or is broken off over a filter
    that is torn.  The rule about the directory is never the one named. -/
theorem broken_rule_ends_run {arguments : List String} (hread : Arguments.read arguments = .ok i)
    (hload : ((loadSettings (Host.ofTree env around) i.config).run t).1 = .ok settings)
    (hbroken : FirstBroken t.isFile { settings with session := i.override settings.session } field
      words) :
    ∃ outcome, ((run (Host.ofTree env around) arguments).run t).1 = { log := [], outcome } ∧
      (outcome = .ended 1 ("[cdp-console] Error: " ++ ("Invalid value for " ++ field ++ ": " ++
        words) ++ "\n") ↔ LogReady env around t settings.logging) ∧
      (LogReady env around t settings.logging ∨
        ∃ fault, LogFails env around t settings.logging fault) ∧
      (∀ fault, LogFails env around t settings.logging fault →
        (∀ message, fault.message? = some message →
          outcome = .ended 1 ("[cdp-console] Error: " ++ message ++ "\n")) ∧
        (fault.message? = none → outcome = .ended 134 "")) ∧
      (field = "logging.dir" → ¬ LogReady env around t settings.logging) := by
  rw [run_of_broken hread hload hbroken]
  cases hsetUp : logSetUp env around t settings.logging with
  | ok x =>
      have hready := exists_logSetUp_eq_ok_iff.mp ⟨x, hsetUp⟩
      refine ⟨_, rfl, ⟨fun _ => hready, fun _ => rfl⟩, .inl hready, fun fault hfails => ?_,
        hbroken.not_ready⟩
      cases hsetUp.symm.trans (logSetUp_eq_error_iff.mpr hfails)
  | error fault =>
      have hfails := logSetUp_eq_error_iff.mp hsetUp
      have hnot := not_ready_of_error hsetUp
      have hlog : Result.ofLogFault fault = ⟨[], (Result.ofLogFault fault).outcome⟩ := by
        rw [← Result.ofLogFault_log fault]
      refine ⟨_, hlog, ⟨fun heq => absurd heq (hbroken.outcome_ne fault), fun h => absurd h hnot⟩,
        .inr ⟨fault, hfails⟩, fun other hother => ?_, hbroken.not_ready⟩
      obtain rfl := Except.error.inj (hsetUp.symm.trans (logSetUp_eq_error_iff.mpr hother))
      constructor
      · intro message h
        rw [Result.ofLogFault_of_message h]
        rfl
      · intro h
        rw [Result.ofLogFault_of_silent h]
        rfl

/-- The files of a run whose settings are that text. -/
def settingsFile (text : String) : Tree := { root := [("c.toml", .file (some text))] }

def configured : List String := ["-c", "c.toml", "ws://127.0.0.1:1/x"]

def noConnectTime : String := "[session]\nconnect_timeout_secs = 0"

def blankLevel : String := "[logging]\nlevel = \"  \""

theorem configured_eval :
    Arguments.read configured = .ok { config := some "c.toml", url := "ws://127.0.0.1:1/x" } := by
  cbv

theorem load_noConnectTime :
    ((loadSettings (Host.ofTree ⟨[]⟩) (some "c.toml")).run (settingsFile noConnectTime)).1 =
      .ok { session := { connectTimeoutSecs := 0 } } := by
  decide +kernel

theorem load_blankLevel :
    ((loadSettings (Host.ofTree ⟨[]⟩) (some "c.toml")).run (settingsFile blankLevel)).1 =
      .ok { logging := { level := "  " } } := by
  decide +kernel

theorem filterOf_blank (patternFault? : List Char → Option String) :
    filterOf patternFault? ⟨[]⟩ "  " = .error .malformed := rfl

/-- A system on which no log file can be opened, in whatever directory. -/
def sealedLog : Surroundings where
  openLog _ _ := .error (.file (.refused ⟨"Permission denied", 13⟩))

def sealedDirectory : String :=
  "[session]\nconnect_timeout_secs = 0\n[logging]\ndir = \"logs\""

theorem load_sealedDirectory :
    ((loadSettings (Host.ofTree ⟨[]⟩ sealedLog) (some "c.toml")).run
        (settingsFile sealedDirectory)).1 =
      .ok { session := { connectTimeoutSecs := 0 }, logging := { dir := some "logs" } } := by
  decide +kernel

theorem exists_made_logs : ∃ t', (settingsFile sealedDirectory).makeDirectories "logs" = .ok t' :=
  ⟨_, rfl⟩

/-- One line names a rule, one has the words of the filter and one those of the log file. -/
theorem broken_rule_ends_run_variously :
    ((run (Host.ofTree ⟨[]⟩) configured).run (settingsFile noConnectTime)).1 =
        { outcome := .ended 1 ("[cdp-console] Error: Invalid value for " ++
          "session.connect_timeout_secs: connect_timeout_secs must be greater than 0\n") } ∧
      ((run (Host.ofTree ⟨[]⟩) configured).run (settingsFile blankLevel)).1 =
        { outcome := .ended 1 "[cdp-console] Error: invalid filter directive\n" } ∧
      ((run (Host.ofTree ⟨[]⟩ sealedLog) configured).run (settingsFile sealedDirectory)).1 =
        { outcome := .ended 1 ("[cdp-console] Error: failed to create initial log file: " ++
          "Permission denied (os error 13)\n") } := by
  refine ⟨?_, ?_, ?_⟩
  · obtain ⟨outcome, hrun, hline, -⟩ :=
      broken_rule_ends_run configured_eval load_noConnectTime (.connectTimeout rfl)
    rw [hrun, hline.mpr ⟨⟨[{ threshold := some .warn }], rfl⟩, nofun⟩]
    rfl
  · obtain ⟨outcome, hrun, -, -, hfails, -⟩ := broken_rule_ends_run configured_eval load_blankLevel
      (.level (by decide) (by decide) (by decide))
    rw [hrun, (hfails _ (.filter (filterOf_blank _))).1 _ rfl]
    rfl
  · obtain ⟨outcome, hrun, -, -, hfails, -⟩ :=
      broken_rule_ends_run configured_eval load_sealedDirectory (.connectTimeout rfl)
    obtain ⟨t', hmade⟩ := exists_made_logs
    have hfilter : filterOf sealedLog.patternFault? ⟨[]⟩ "warn" =
        .ok [{ threshold := some .warn }] := rfl
    rw [hrun, (hfails _ (.file hfilter rfl hmade rfl)).1 _ rfl]
    rfl

/-- The first broken rule is not always named: a blank level is reported by the filter. -/
theorem blank_level_unnamed :
    ¬ ∀ (env : Environment) (around : Surroundings) (t : Tree) (arguments : List String)
      (i : Invocation) (settings : Settings) (field words : String),
      Arguments.read arguments = .ok i →
      ((loadSettings (Host.ofTree env around) i.config).run t).1 = .ok settings →
      FirstBroken t.isFile { settings with session := i.override settings.session } field words →
      ((run (Host.ofTree env around) arguments).run t).1 =
        { log := []
          outcome := .ended 1
            ("[cdp-console] Error: " ++ ("Invalid value for " ++ field ++ ": " ++ words) ++ "\n") } := by
  intro hall
  have hbroken : FirstBroken (settingsFile blankLevel).isFile { logging := { level := "  " } }
      "logging.level" "Log level cannot be empty" :=
    .level (by decide) (by decide) (by decide)
  have hnamed := hall ⟨[]⟩ {} (settingsFile blankLevel) configured _ _ _ _ configured_eval
    load_blankLevel hbroken
  rw [run_of_broken configured_eval load_blankLevel hbroken, logSetUp, filterOf_blank] at hnamed
  revert hnamed
  decide

end ConsoleTap.Program
