import ConsoleTap.Proofs.Arguments.Values
import ConsoleTap.Proofs.Connection
import ConsoleTap.Proofs.Program.Refusal

/-!
# The limits of a session

Three parties have a say in each limit of a session: the command line, the document that the
settings are read from, and the defaults.  The first of them that says anything of a limit
decides it, whatever they say of the other limits (`InForce`).  A run connects only with
timeouts that are not zero; a document may give a zero, because the rules look at what is in
force, and no option can.
-/

namespace ConsoleTap.Program

open ConsoleTap.Arguments (Item Spells)
open ConsoleTap.Files (Tree)
open ConsoleTap.Settings (Says)

variable {env : Environment} {around : Surroundings} {t t' : Tree} {i : Invocation}
  {settings : Settings} {config : Option String} {arguments : List String} {items : List Item}
  {limit : Limit} {n : Nat}

/-! ### The document -/

/-- The home directory of the user: that of the environment, or else that of the account. -/
def homeOf (env : Environment) (around : Surroundings) : Option String :=
  (Settings.home? env).or around.accountHome?

/-- The text that settings are read from, if there is one: in the file that is named, or in the
    one in the home directory. -/
def settingsText? (home? : Option String) (t : Tree) : Option String → Option String
  | some path => (t.readText path).toOption
  | none => home?.bind fun home => (t.readText (Settings.homeFile home)).toOption

/-- The document in this text, its references replaced. -/
def document? (env : Environment) (around : Surroundings) (t : Tree) (config : Option String) :
    Option Toml.Value :=
  (settingsText? (homeOf env around) t config).bind fun text =>
    (Settings.expand env text).toOption.bind Toml.Document.read?

theorem ofText_ne_notFound {text path : String} {home? : Option String} :
    Settings.ofText env text home? ≠ .error (.notFound path) := by
  rw [Settings.ofText]
  split
  · nofun
  · split <;> nofun

theorem ofFile_cases {path : String} {content : Except FileFault String} {home? : Option String}
    (h : Settings.ofFile env path content home? = .ok settings) :
    ∃ text, content = .ok text ∧ Settings.ofText env text home? = .ok settings := by
  cases content with
  | ok text => exact ⟨text, rfl, h⟩
  | error fault => cases fault <;> cases h

/-- Settings that were loaded are those of the text, or all defaults where there is none. -/
theorem settings_of_load
    (h : ((loadSettings (Host.ofTree env around) config).run t).1 = .ok settings) :
    (settingsText? (homeOf env around) t config = none ∧ settings = {}) ∨
      ∃ text, settingsText? (homeOf env around) t config = some text ∧
        Settings.ofText env text (homeOf env around) = .ok settings := by
  cases config with
  | some path =>
      obtain ⟨text, hcontent, htext⟩ := ofFile_cases h
      exact Or.inr ⟨text, by rw [settingsText?, hcontent]; rfl, htext⟩
  | none =>
      unfold loadSettings at h
      rw [settingsText?]
      cases hhome : homeOf env around with
      | none =>
          rw [homeOf] at hhome
          simp only [Host.ofTree, pure_bind, hhome] at h
          exact Or.inl ⟨rfl, (Except.ok.inj h).symm⟩
      | some home =>
          have hload : Settings.ofOptionalFile env (Settings.homeFile home)
              (t.readText (Settings.homeFile home)) (some home) = .ok settings := by
            rw [homeOf] at hhome
            simp only [Host.ofTree, pure_bind, hhome] at h
            exact h
          rw [Option.bind_some]
          cases hcontent : t.readText (Settings.homeFile home) with
          | ok text =>
              rw [hcontent] at hload
              refine Or.inr ⟨text, rfl, ?_⟩
              unfold Settings.ofOptionalFile at hload
              split at hload
              · exact absurd ‹_› ofText_ne_notFound
              · exact hload
          | error fault =>
              rw [hcontent] at hload
              refine Or.inl ⟨rfl, ?_⟩
              cases fault with
              | notFound => exact (Except.ok.inj hload).symm
              | _ => cases hload

/-- The settings of a text have the limits of its document. -/
theorem document_of_ofText {text : String} {home? : Option String}
    (h : Settings.ofText env text home? = .ok settings) :
    ∃ expanded doc read, Settings.expand env text = .ok expanded ∧
      Toml.Document.read? expanded = some doc ∧ Settings.ofToml? expanded = some read ∧
      settings.session = read.session := by
  rw [Settings.ofText] at h
  split at h
  · cases h
  · rename_i expanded hexpand
    split at h
    · cases h
    · rename_i read hread
      cases h
      obtain ⟨doc, hdoc, -⟩ := Option.bind_eq_some_iff.mp hread
      exact ⟨expanded, doc, read, hexpand, hdoc, hread, rfl⟩

/-- Each limit of settings that were loaded is the one that the document gives, or the default. -/
theorem limit_of_load (limit : Limit)
    (h : ((loadSettings (Host.ofTree env around) config).run t).1 = .ok settings) :
    (∀ doc v, document? env around t config = some doc → Says doc limit v →
        v = .integer (limit.of settings.session)) ∧
      ((∀ doc v, document? env around t config = some doc → ¬ Says doc limit v) →
        limit.of settings.session = limit.default) := by
  rcases settings_of_load h with ⟨hnone, rfl⟩ | ⟨text, htext, hload⟩
  · have hdoc : document? env around t config = none := by rw [document?, hnone]; rfl
    refine ⟨fun doc v hsome => ?_, fun _ => ?_⟩
    · rw [hdoc] at hsome
      cases hsome
    · cases limit <;> rfl
  · obtain ⟨expanded, doc, read, hexpand, hdoc, hread, hsession⟩ := document_of_ofText hload
    have hdocument : document? env around t config = some doc := by
      rw [document?, htext, Option.bind_some, hexpand]
      exact hdoc
    obtain ⟨hsaid, hsilent⟩ := Settings.limit_of_ofToml? limit hdoc hread
    rw [hsession, hdocument]
    constructor
    · intro other v hother hv
      obtain rfl := Option.some.inj hother
      exact hsaid v hv
    · intro hno
      exact hsilent fun v => hno doc v rfl

/-! ### What is in force -/

/-- A limit and what decides it: the command line, if one of its items gives the limit; else the
    document, if it does; else the default. -/
inductive InForce (items : List Item) (doc : Option Toml.Value) (limit : Limit) : Nat → Prop where
  | option {value : String} {n : Nat} (hmem : .option limit.flag value ∈ items)
      (h : limit.read value.toList = .ok n) : InForce items doc limit n
  | document {d : Toml.Value} {n : Nat} (hno : ∀ value, .option limit.flag value ∉ items)
      (hdoc : doc = some d) (h : Says d limit (.integer n)) : InForce items doc limit n
  | default (hno : ∀ value, .option limit.flag value ∉ items)
      (hsilent : ∀ d v, doc = some d → ¬ Says d limit v) : InForce items doc limit limit.default

/-- The limits that are handed on are those in force. -/
theorem inForce_iff (hread : Arguments.read arguments = .ok i) (hspells : Spells arguments items)
    (hload : ((loadSettings (Host.ofTree env around) i.config).run t).1 = .ok settings) :
    InForce items (document? env around t i.config) limit n ↔
      n = limit.of (i.override settings.session) := by
  obtain ⟨hsaid, hsilent⟩ := limit_of_load limit hload
  rw [Limit.of_override]
  rcases Arguments.given_of_read limit hspells hread with
    ⟨value, m, hmem, honly, hvalue, hgiven⟩ | ⟨hno, hgiven⟩
  · rw [hgiven, Option.getD_some]
    constructor
    · intro hforce
      cases hforce with
      | option hother h =>
          obtain rfl := honly _ hother
          exact Except.ok.inj (h.symm.trans hvalue)
      | document hno => exact absurd hmem (hno value)
      | default hno => exact absurd hmem (hno value)
    · rintro rfl
      exact .option hmem hvalue
  · rw [hgiven, Option.getD_none]
    constructor
    · intro hforce
      cases hforce with
      | option hother => exact absurd hother (hno _)
      | document _ hdoc h => exact Int.ofNat.inj (Toml.Value.integer.inj (hsaid _ _ hdoc h))
      | default _ h => exact (hsilent h).symm
    · rintro rfl
      by_cases hdoc : ∃ d v, document? env around t i.config = some d ∧ Says d limit v
      · obtain ⟨d, v, hdoc, h⟩ := hdoc
        obtain rfl := hsaid d v hdoc h
        exact .document hno hdoc h
      · have hnone : ∀ d v, document? env around t i.config = some d → ¬ Says d limit v :=
          fun d v hsome h => hdoc ⟨d, v, hsome, h⟩
        rw [hsilent hnone]
        exact .default hno hnone

/-! ### Which runs connect -/

theorem errors_eq_nil_iff {isFile : String → Bool} : (settings.check isFile).errors = [] ↔
    settings.session.connectTimeoutSecs ≠ 0 ∧ settings.session.fetchTimeoutMs ≠ 0 ∧
      Text.isAllBlank settings.logging.level = false ∧
      ∀ dir, settings.logging.dir = some dir → isFile dir = false := by
  rw [Settings.check, Settings.sessionErrors, Settings.loggingErrors]
  cases hdir : settings.logging.dir with
  | none => simp
  | some dir => simp

theorem check_eq_connecting_iff {filter : List Log.Directive} {isFile : String → Bool}
    {url : Url.SocketUrl} {limits : SessionSettings} :
    (check i settings filter isFile).outcome = .connecting url limits ↔
      (settings.check isFile).errors = [] ∧ (Attempt.ofAddress i.url).result = .ok url ∧
        limits = settings.session := by
  rw [check, Settings.Verdict.result]
  cases herrors : (settings.check isFile).errors with
  | cons e rest => simp [failed]
  | nil =>
      cases hresult : (Attempt.ofAddress i.url).result with
      | error fault => simp [hresult]
      | ok url' => simp [hresult, eq_comm]

/-- A run connects exactly if its log can be set up, both timeouts and the level are as the rules
    want them, and the address is that of a web socket that can be tried; it hands on the merged
    limits. -/
theorem run_eq_connecting_iff {url : Url.SocketUrl} {limits : SessionSettings}
    (hread : Arguments.read arguments = .ok i)
    (hload : ((loadSettings (Host.ofTree env around) i.config).run t).1 = .ok settings) :
    ((run (Host.ofTree env around) arguments).run t).1.outcome = .connecting url limits ↔
      limits = i.override settings.session ∧ 0 < limits.connectTimeoutSecs ∧
        0 < limits.fetchTimeoutMs ∧ Text.isAllBlank settings.logging.level = false ∧
        LogReady env around t settings.logging ∧ (Attempt.ofAddress i.url).result = .ok url := by
  rw [run, hread]
  simp only
  rw [runInvocation_run hload]
  cases hsetUp : logSetUp env around t settings.logging with
  | error fault =>
      have hnot := not_ready_of_error hsetUp
      cases h : fault.message? <;> simp [Result.ofLogFault, h, failed, brokenOff, hnot]
  | ok x =>
      obtain ⟨filter, t'⟩ := x
      have hready := exists_logSetUp_eq_ok_iff.mp ⟨_, hsetUp⟩
      -- the directory that was made is no file, so the rule about it is kept
      have hfile : ∀ dir, settings.logging.dir = some dir →
          (settings.logging.dir.map t'.isFile).getD false = false := by
        intro dir hdir
        obtain ⟨t'', hmade, hopened⟩ := hready.file dir hdir
        obtain ⟨found, hfilter⟩ := hready.filter
        simp only [logSetUp, hfilter, hdir, hmade, hopened] at hsetUp
        cases hsetUp
        rw [hdir]
        exact Tree.isFile_of_makeDirectories hmade
      simp only
      rw [check_eq_connecting_iff, errors_eq_nil_iff]
      constructor
      · rintro ⟨⟨hconnect, hfetch, hlevel, -⟩, haddress, rfl⟩
        exact ⟨rfl, Nat.pos_of_ne_zero hconnect, Nat.pos_of_ne_zero hfetch, hlevel, hready,
          haddress⟩
      · rintro ⟨rfl, hconnect, hfetch, hlevel, -, haddress⟩
        exact ⟨⟨Nat.ne_of_gt hconnect, Nat.ne_of_gt hfetch, hlevel, hfile⟩, haddress, rfl⟩

/-- Each limit of the session is the one in force, whatever decides the others.  A run that
    connects hands on these limits, and it connects only with timeouts that are not zero; nothing
    else is asked of a limit, so an option makes good a zero in the file, and no option gives
    one. -/
theorem limits_in_force (hread : Arguments.read arguments = .ok i)
    (hload : ((loadSettings (Host.ofTree env around) i.config).run t).1 = .ok settings) :
    (∃ items, Spells arguments items) ∧
    (∀ items, Spells arguments items → ∀ limit : Limit,
      (∀ n, InForce items (document? env around t i.config) limit n ↔
        n = limit.of (i.override settings.session)) ∧
      (limit ≠ .depth → (∃ value, .option limit.flag value ∈ items) →
        0 < limit.of (i.override settings.session))) ∧
    ∀ url limits,
      ((run (Host.ofTree env around) arguments).run t).1.outcome = .connecting url limits ↔
        limits = i.override settings.session ∧ 0 < limits.connectTimeoutSecs ∧
        0 < limits.fetchTimeoutMs ∧ Text.isAllBlank settings.logging.level = false ∧
        LogReady env around t settings.logging ∧ (Attempt.ofAddress i.url).result = .ok url := by
  refine ⟨Arguments.exists_spells hread, ?_, fun url limits => run_eq_connecting_iff hread hload⟩
  intro items hspells limit
  refine ⟨fun n => inForce_iff hread hspells hload, ?_⟩
  rintro htimeout ⟨value, hmem⟩
  rcases Arguments.given_of_read limit hspells hread with
    ⟨value, n, -, -, hvalue, hgiven⟩ | ⟨hno, -⟩
  · rw [Limit.of_override, hgiven]
    exact Limit.pos_of_read htimeout hvalue
  · exact absurd hmem (hno value)

/-- A session's section as an array: five seconds to connect, no time for a fetch. -/
def positional : String := "session = [5, 0]"

def rescuing : List String := ["--fetch-timeout-ms=700", "-c", "c.toml", "ws://[::1]:1/x"]

def rescued : Invocation :=
  { url := "ws://[::1]:1/x", config := some "c.toml", fetchTimeoutMs := some 700 }

theorem rescuing_eval : Arguments.read rescuing = .ok rescued := by
  cbv

theorem spells_rescuing : Spells rescuing [.option .fetchTimeoutMs "700",
    .option .config "c.toml", .address "ws://[::1]:1/x"] :=
  .attached (.marked "700" (.long .fetchTimeoutMs))
    (.apart .short (Or.inr (by decide)) (.address (Or.inr (by decide)) .nothing))

theorem load_positional :
    ((loadSettings (Host.ofTree ⟨[]⟩) rescued.config).run (settingsFile positional)).1 =
      .ok { session := { connectTimeoutSecs := 5, fetchTimeoutMs := 0 } } := by
  decide +kernel

theorem loopback_eval : (Attempt.ofAddress rescued.url).result = .ok loopback := by
  decide +kernel

/-- One limit is the file's, one is an option's in the place of a zero in the file, and one is the
    default. -/
theorem limits_in_force_rescued :
    Arguments.read rescuing = .ok rescued ∧
      ((loadSettings (Host.ofTree ⟨[]⟩) rescued.config).run (settingsFile positional)).1 =
        .ok { session := { connectTimeoutSecs := 5, fetchTimeoutMs := 0 } } ∧
      ∃ items, Spells rescuing items ∧
        InForce items (document? ⟨[]⟩ {} (settingsFile positional) rescued.config) .connectTimeout
          5 ∧
        InForce items (document? ⟨[]⟩ {} (settingsFile positional) rescued.config) .fetchTimeout
          700 ∧
        InForce items (document? ⟨[]⟩ {} (settingsFile positional) rescued.config) .depth 2 ∧
        ((run (Host.ofTree ⟨[]⟩) rescuing).run (settingsFile positional)).1.outcome =
          .connecting loopback
            { connectTimeoutSecs := 5, fetchTimeoutMs := 700, maxDepth := 2 } := by
  obtain ⟨-, hlimits, hconnecting⟩ := limits_in_force rescuing_eval load_positional
  refine ⟨rescuing_eval, load_positional, _, spells_rescuing, ?_, ?_, ?_, ?_⟩
  · exact ((hlimits _ spells_rescuing .connectTimeout).1 5).mpr rfl
  · exact ((hlimits _ spells_rescuing .fetchTimeout).1 700).mpr rfl
  · exact ((hlimits _ spells_rescuing .depth).1 2).mpr rfl
  · exact (hconnecting loopback _).mpr ⟨rfl, by decide, by decide, by decide,
      ⟨⟨[{ threshold := some .warn }], rfl⟩, nofun⟩, loopback_eval⟩

end ConsoleTap.Program
