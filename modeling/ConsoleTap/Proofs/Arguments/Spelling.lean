import ConsoleTap.Arguments
import ConsoleTap.Proofs.Results
import ConsoleTap.Proofs.Settings.Limits
import ConsoleTap.Proofs.Text.Front

/-!
# How a command line is spelled

A command line that can be read falls into items: options with their values, in any order
and in any of their forms, and addresses.  `Spells` says how, and mentions no reader.  Every
command line that is read is spelled in this way, and what is read of an option is the value
of the one item that gives it.  Options are settled late, so the reader's progress is compared
with the items by what is settled and what waits (`Tells`).
-/

namespace ConsoleTap.Arguments

/-! ### Items -/

/-- A part of a command line. -/
inductive Item where
  | option (flag : Flag) (value : String)
  | address (text : String)
deriving DecidableEq, Repr

def Flag.name : Flag → String
  | .config => "config"
  | .depth => "depth"
  | .fetchTimeoutMs => "fetch-timeout-ms"
  | .connectTimeoutSecs => "connect-timeout-secs"

/-- The argument names an option. -/
inductive Names : String → Flag → Prop where
  | long (flag : Flag) : Names ("--" ++ flag.name) flag
  | short : Names "-c" .config

/-- The argument names an option and gives its value at once. -/
inductive Carries : String → Flag → String → Prop where
  | marked {argument : String} {flag : Flag} (value : String) (h : Names argument flag) :
      Carries (argument ++ "=" ++ value) flag value
  | joined {value : String} (hne : value ≠ "") (hmark : value.toList.head? ≠ some '=') :
      Carries ("-c" ++ value) .config value

/-- The argument stands for itself: it begins with no dash, or is one. -/
def IsPlain (argument : String) : Prop :=
  argument.toList = ['-'] ∨ argument.toList.head? ≠ some '-'

/-- The arguments spell the items. -/
inductive Spells : List String → List Item → Prop where
  | nothing : Spells [] []
  | apart {argument value : String} {flag : Flag} {rest : List String} {items : List Item}
      (hname : Names argument flag) (hplain : IsPlain value) (h : Spells rest items) :
      Spells (argument :: value :: rest) (.option flag value :: items)
  | attached {argument value : String} {flag : Flag} {rest : List String} {items : List Item}
      (hcarries : Carries argument flag value) (h : Spells rest items) :
      Spells (argument :: rest) (.option flag value :: items)
  | address {text : String} {rest : List String} {items : List Item}
      (hplain : IsPlain text) (h : Spells rest items) :
      Spells (text :: rest) (.address text :: items)
  | addresses (texts : List String) : Spells ("--" :: texts) (texts.map .address)

namespace Progress

variable {p p' q : Progress} {argument value : String} {flag : Flag} {i : Invocation}
  {arguments : List String} {items : List Item}

/-! ### Taking one argument -/

theorem toList_long (flag : Flag) :
    ("--" ++ flag.name).toList = '-' :: '-' :: flag.name.toList := by
  rw [String.toList_append]
  rfl

theorem lookup_name (flag : Flag) : names.lookup flag.name = some (.flag flag) := by
  cases flag <;> decide

theorem mark_not_mem_name (flag : Flag) : '=' ∉ flag.name.toList := by
  cases flag <;> decide

theorem take_long {s : List Char} (hended : p.optionsEnded = false)
    (hargument : argument.toList = '-' :: '-' :: s) (hne : s ≠ []) :
    p.take argument = p.takeNamed s := by
  cases s with
  | nil => exact absurd rfl hne
  | cons c s => simp [take, hended, hargument]

theorem name_ne_nil (flag : Flag) : flag.name.toList ≠ [] := by
  cases flag <;> decide

theorem takeNamed_name : p.takeNamed flag.name.toList = p.takeOption (.flag flag) none := by
  cases flag <;> rfl

theorem takeNamed_marked (v : List Char) :
    p.takeNamed (flag.name.toList ++ '=' :: v) = p.takeOption (.flag flag) (some v) := by
  have hname : (flag.name.toList ++ '=' :: v).takeWhile (· ≠ '=') = flag.name.toList :=
    Text.takeWhile_before (mark_not_mem_name flag) (by simp)
  rw [takeNamed, hname]
  simp [lookup_name]

theorem take_of_names (hended : p.optionsEnded = false) (h : Names argument flag) :
    p.take argument = p.takeOption (.flag flag) none := by
  cases h with
  | long => rw [take_long hended (toList_long flag) (name_ne_nil flag), takeNamed_name]
  | short => simp [take, hended, takeLettered, letters]

theorem take_of_carries (hended : p.optionsEnded = false) (h : Carries argument flag value) :
    p.take argument = p.takeOption (.flag flag) (some value.toList) := by
  cases h with
  | marked value hname =>
      cases hname with
      | long =>
          have hargument : ("--" ++ flag.name ++ "=" ++ value).toList =
              '-' :: '-' :: (flag.name.toList ++ '=' :: value.toList) := by
            simp [String.toList_append]
          rw [take_long hended hargument (by simp), takeNamed_marked]
      | short =>
          simp [take, hended, takeLettered, letters, String.toList_append]
  | joined hne hmark =>
      cases hvalue : value.toList with
      | nil => exact absurd (String.toList_eq_nil_iff.mp hvalue) hne
      | cons c rest =>
          rw [hvalue] at hmark
          have hc : c ≠ '=' := fun heq => hmark (congrArg some heq)
          simp [take, hended, takeLettered, letters, String.toList_append, hvalue, hc]

theorem take_of_isPlain (hended : p.optionsEnded = false) (h : IsPlain argument) :
    p.take argument = p.takePlain argument.toList := by
  rcases h with h | h
  · simp [take, hended, h]
  · cases hargument : argument.toList with
    | nil => simp [take, hended, hargument]
    | cons c rest =>
        rw [hargument] at h
        have hc : c ≠ '-' := fun heq => h (congrArg some heq)
        simp [take, hended, hargument, hc]

theorem take_of_ended (hended : p.optionsEnded = true) :
    p.take argument = p.takeAddress argument.toList := by
  simp [take, hended]

/-! ### Which arguments are understood -/

theorem takeOption_stop_eq_error (p : Progress) (reason : UsageFault)
    (attached : Option (List Char)) :
    ∃ fault, p.takeOption (.stop reason) attached = .error fault := by
  cases attached with
  | some _ => exact ⟨_, rfl⟩
  | none =>
      cases hsettle : p.settle with
      | error fault => exact ⟨fault, by simp [takeOption, hsettle, bind, Except.bind]⟩
      | ok q => exact ⟨reason, by simp only [takeOption, hsettle]; rfl⟩

theorem eq_name_of_lookup {name : String} (h : names.lookup name = some (.flag flag)) :
    name = flag.name := by
  obtain ⟨before, after, hnames, -⟩ := List.lookup_eq_some_iff.mp h
  have hmem : (name, Meaning.flag flag) ∈ names := by simp [hnames]
  simp only [names, List.mem_cons, Prod.mk.injEq, Meaning.flag.injEq, reduceCtorEq, and_false,
    List.not_mem_nil, or_false] at hmem
  rcases hmem with ⟨rfl, rfl⟩ | ⟨rfl, rfl⟩ | ⟨rfl, rfl⟩ | ⟨rfl, rfl⟩ <;> rfl

end Progress

/-- What an argument is to a reader that still takes options. -/
inductive Kind (argument : String) : Prop where
  | dashes (h : argument = "--")
  | plain (h : IsPlain argument)
  | naming {flag : Flag} (h : Names argument flag)
  | carrying {flag : Flag} {value : String} (h : Carries argument flag value)
  | refused (h : ∀ p : Progress, p.optionsEnded = false → ∃ fault, p.take argument = .error fault)

namespace Progress

variable {p p' q : Progress} {argument value : String} {flag : Flag} {i : Invocation}
  {arguments : List String} {items : List Item}

theorem kind_of_long {s : List Char} (hargument : argument.toList = '-' :: '-' :: s) (hne : s ≠ []) :
    Kind argument := by
  have hnamed : ∀ p : Progress, p.optionsEnded = false → p.take argument = p.takeNamed s :=
    fun p hended => take_long hended hargument hne
  have hsplit := List.takeWhile_append_dropWhile (p := fun c => decide (c ≠ '=')) (l := s)
  cases hlookup : names.lookup (String.ofList (s.takeWhile (· ≠ '='))) with
  | none =>
      refine .refused fun p hended => ⟨.unknownArgument, ?_⟩
      rw [hnamed p hended, takeNamed, hlookup]
  | some meaning =>
      cases meaning with
      | stop reason =>
          refine .refused fun p hended => ?_
          rw [hnamed p hended, takeNamed, hlookup]
          exact takeOption_stop_eq_error p reason _
      | flag flag =>
          have hname := congrArg String.toList (eq_name_of_lookup hlookup)
          rw [String.toList_ofList] at hname
          rw [hname] at hsplit
          cases hrest : s.dropWhile (fun c => decide (c ≠ '=')) with
          | nil =>
              rw [hrest, List.append_nil] at hsplit
              have heq : argument = "--" ++ flag.name := by
                apply String.toList_injective
                rw [hargument, toList_long, hsplit]
              rw [heq]
              exact .naming (.long flag)
          | cons c value =>
              obtain rfl : c = '=' := by
                have hc := List.head?_dropWhile_not (fun c => decide (c ≠ '=')) s
                rw [hrest] at hc
                simpa using hc
              rw [hrest] at hsplit
              have heq : argument = "--" ++ flag.name ++ "=" ++ String.ofList value := by
                apply String.toList_injective
                rw [hargument, ← hsplit]
                simp [String.toList_append]
              rw [heq]
              exact .carrying (.marked (String.ofList value) (.long flag))

theorem kind_of_lettered {letter : Char} {s : List Char}
    (hargument : argument.toList = '-' :: letter :: s) (hletter : letter ≠ '-') :
    Kind argument := by
  have hlettered : ∀ p : Progress, p.optionsEnded = false →
      p.take argument = p.takeLettered letter s := by
    intro p hended
    simp [take, hended, hargument, hletter]
  cases hlookup : letters.lookup letter with
  | none =>
      refine .refused fun p hended => ⟨.unknownArgument, ?_⟩
      rw [hlettered p hended, takeLettered, hlookup]
  | some meaning =>
      cases meaning with
      | stop reason =>
          refine .refused fun p hended => ?_
          rw [hlettered p hended, takeLettered, hlookup]
          exact takeOption_stop_eq_error p reason none
      | flag flag =>
          obtain ⟨rfl, rfl⟩ : letter = 'c' ∧ flag = .config := by
            obtain ⟨before, after, hletters, -⟩ := List.lookup_eq_some_iff.mp hlookup
            have hmem : (letter, Meaning.flag flag) ∈ letters := by simp [hletters]
            simpa [letters] using hmem
          have heq : argument = "-c" ++ String.ofList s := by
            apply String.toList_injective
            rw [hargument]
            simp [String.toList_append]
          cases s with
          | nil =>
              rw [heq]
              exact .naming .short
          | cons c value =>
              by_cases hmark : c = '='
              · subst hmark
                have hmarked : argument = "-c" ++ "=" ++ String.ofList value := by
                  apply String.toList_injective
                  rw [hargument]
                  simp [String.toList_append]
                rw [hmarked]
                exact .carrying (.marked (String.ofList value) .short)
              · rw [heq]
                exact .carrying (.joined (by simp) (by simpa using hmark))

theorem kind_of (argument : String) : Kind argument := by
  rcases hargument : argument.toList with _ | ⟨c, s⟩
  · exact .plain (Or.inr (by simp [hargument]))
  by_cases hc : c = '-'
  swap
  · exact .plain (Or.inr (by simpa [hargument] using hc))
  subst hc
  rcases s with _ | ⟨letter, s⟩
  · exact .plain (Or.inl hargument)
  by_cases hletter : letter = '-'
  swap
  · exact kind_of_lettered hargument hletter
  subst hletter
  rcases s with _ | ⟨c, s⟩
  · exact .dashes (String.toList_injective hargument)
  · exact kind_of_long hargument (List.cons_ne_nil c s)

/-! ### Settling -/

theorem settle_of_waiting (h : p.pending = some (flag, none)) :
    p.settle = .error .valueMissing := by
  rw [settle, h]

/-- What storing the value of an option comes to: the option has had none, and its value can be
    read. -/
inductive Stored (p : Progress) : Flag → List Char → Progress → Prop where
  | config {v : List Char} (hnone : p.config = none) :
      Stored p .config v { p with config := some (String.ofList v) }
  | depth {v : List Char} {n : Nat} (hnone : p.depth = none) (hread : readDepth v = .ok n) :
      Stored p .depth v { p with depth := some n }
  | fetchTimeoutMs {v : List Char} {n : Nat} (hnone : p.fetchTimeoutMs = none)
      (hread : readLimit v = .ok n) :
      Stored p .fetchTimeoutMs v { p with fetchTimeoutMs := some n }
  | connectTimeoutSecs {v : List Char} {n : Nat} (hnone : p.connectTimeoutSecs = none)
      (hread : readLimit v = .ok n) :
      Stored p .connectTimeoutSecs v { p with connectTimeoutSecs := some n }

theorem stored_of_store {v : List Char} (h : p.store flag v = .ok q) : Stored p flag v q := by
  unfold store at h
  split at h
  · cases h
  · rename_i hhas
    cases flag with
    | config =>
        simp only at h
        split at h
        · cases h
        · cases h
          exact .config (by simpa [has] using hhas)
    | depth =>
        obtain ⟨n, hread, rfl⟩ := map_eq_ok_iff.mp h
        exact .depth (by simpa [has] using hhas) hread
    | fetchTimeoutMs =>
        obtain ⟨n, hread, rfl⟩ := map_eq_ok_iff.mp h
        exact .fetchTimeoutMs (by simpa [has] using hhas) hread
    | connectTimeoutSecs =>
        obtain ⟨n, hread, rfl⟩ := map_eq_ok_iff.mp h
        exact .connectTimeoutSecs (by simpa [has] using hhas) hread

theorem Stored.keeps {v : List Char} (h : Stored p flag v q) :
    q.pending = p.pending ∧ q.optionsEnded = p.optionsEnded := by
  cases h <;> exact ⟨rfl, rfl⟩

theorem pending_of_settle (h : p.settle = .ok q) :
    q.pending = none ∧ q.optionsEnded = p.optionsEnded := by
  unfold settle at h
  split at h
  · cases h
    exact ⟨‹_›, rfl⟩
  · cases h
  · exact (stored_of_store h).keeps

/-! ### Every command line that is read is spelled -/

theorem takeOption_of_waiting (h : p.pending = some (flag, none)) (other : Flag)
    (attached : Option (List Char)) :
    p.takeOption (.flag other) attached = .error .valueMissing := by
  cases attached <;> simp [takeOption, settle_of_waiting h, bind, Except.bind]

theorem takeAddress_of_waiting (h : p.pending = some (flag, none)) (s : List Char) :
    ∃ fault, p.takeAddress s = .error fault := by
  unfold takeAddress
  split
  · exact ⟨_, rfl⟩
  · exact ⟨.valueMissing, by simp [settle_of_waiting h, bind, Except.bind]⟩

theorem finish_of_waiting (h : p.pending = some (flag, none)) :
    p.finish = .error .valueMissing := by
  simp [finish, settle_of_waiting h, bind, Except.bind]

/-- The progress is that of a reader that takes options and waits for no value. -/
structure Open (p : Progress) : Prop where
  taking : p.optionsEnded = false
  settled : ∀ flag, p.pending ≠ some (flag, none)

theorem open_of_pending_eq_none (hended : p.optionsEnded = false) (h : p.pending = none) :
    p.Open :=
  ⟨hended, fun flag heq => by rw [h] at heq; cases heq⟩

theorem open_of_takeAddress {s : List Char} (hended : p.optionsEnded = false)
    (h : p.takeAddress s = .ok p') : p'.Open := by
  unfold takeAddress at h
  split at h
  · cases h
  · obtain ⟨q, hsettle, h⟩ := bind_eq_ok_iff.mp h
    cases h
    obtain ⟨hpending, hkeeps⟩ := pending_of_settle hsettle
    exact open_of_pending_eq_none (hkeeps.trans hended) hpending

theorem open_of_takeOption_attached {v : List Char} (hended : p.optionsEnded = false)
    (h : p.takeOption (.flag flag) (some v) = .ok p') : p'.Open := by
  obtain ⟨q, hsettle, hstore⟩ := bind_eq_ok_iff.mp h
  obtain ⟨hpending, hkeeps⟩ := pending_of_settle hsettle
  obtain ⟨hpending', hkeeps'⟩ := (stored_of_store hstore).keeps
  exact open_of_pending_eq_none (hkeeps'.trans (hkeeps.trans hended)) (hpending'.trans hpending)

/-- Behind the two dashes nothing can settle an option that waits for its value. -/
theorem not_read_of_waiting_of_ended (h : p.pending = some (flag, none))
    (hended : p.optionsEnded = true) : (arguments.foldlM take p >>= finish) ≠ .ok i := by
  intro hread
  cases arguments with
  | nil =>
      simp only [List.foldlM_nil, pure, Except.pure, bind, Except.bind,
        finish_of_waiting h] at hread
      cases hread
  | cons argument rest =>
      rw [List.foldlM_cons, take_of_ended hended] at hread
      obtain ⟨fault, hfault⟩ := takeAddress_of_waiting h argument.toList
      rw [hfault] at hread
      cases hread

/-- What is left of a command line that can be read is spelled; if an option waits for its value, the
    value comes first. -/
theorem exists_spells_of_foldlM (hended : p.optionsEnded = false)
    (hread : (arguments.foldlM take p >>= finish) = .ok i) :
    (p.Open → ∃ items, Spells arguments items) ∧
      (∀ flag, p.pending = some (flag, none) →
        ∃ value rest items, arguments = value :: rest ∧ IsPlain value ∧ Spells rest items) := by
  induction arguments generalizing p with
  | nil =>
      refine ⟨fun _ => ⟨[], .nothing⟩, ?_⟩
      intro flag hpending
      simp only [List.foldlM_nil, pure, Except.pure, bind, Except.bind,
        finish_of_waiting hpending] at hread
      cases hread
  | cons argument rest ih =>
      rw [List.foldlM_cons] at hread
      cases htake : p.take argument with
      | error fault =>
          rw [htake] at hread
          cases hread
      | ok next =>
          rw [htake] at hread
          change (rest.foldlM take next >>= finish) = .ok i at hread
          cases kind_of argument with
          | dashes h =>
              subst h
              have hnext : next = { p with optionsEnded := true } := by
                have : p.take "--" = .ok { p with optionsEnded := true } := by simp [take, hended]
                exact Except.ok.inj (htake.symm.trans this)
              subst hnext
              refine ⟨fun _ => ⟨_, .addresses rest⟩, ?_⟩
              intro flag hpending
              exact absurd hread (not_read_of_waiting_of_ended hpending rfl)
          | plain h =>
              rw [take_of_isPlain hended h, takePlain] at htake
              constructor
              · intro hopen
                split at htake
                · exact absurd ‹_› (hopen.settled _)
                · have hnext := open_of_takeAddress hended htake
                  obtain ⟨items, hitems⟩ := (ih hnext.taking hread).1 hnext
                  exact ⟨_, .address h hitems⟩
              · intro flag hpending
                rw [hpending] at htake
                cases htake
                have hnext : ({ p with pending := some (flag, some argument.toList) } :
                    Progress).Open := ⟨hended, fun _ heq => by cases heq⟩
                obtain ⟨items, hitems⟩ := (ih hnext.taking hread).1 hnext
                exact ⟨argument, rest, items, rfl, h, hitems⟩
          | @naming named h =>
              rw [take_of_names hended h] at htake
              constructor
              · intro _
                obtain ⟨q, hsettle, hnext⟩ := bind_eq_ok_iff.mp htake
                cases hnext
                have hnext : ({ q with pending := some (named, none) } :
                    Progress).optionsEnded = false := (pending_of_settle hsettle).2.trans hended
                obtain ⟨value, others, items, rfl, hplain, hitems⟩ := (ih hnext hread).2 named rfl
                exact ⟨_, .apart h hplain hitems⟩
              · intro flag hpending
                rw [takeOption_of_waiting hpending] at htake
                cases htake
          | carrying h =>
              rw [take_of_carries hended h] at htake
              constructor
              · intro _
                have hnext := open_of_takeOption_attached hended htake
                obtain ⟨items, hitems⟩ := (ih hnext.taking hread).1 hnext
                exact ⟨_, .attached h hitems⟩
              · intro flag hpending
                rw [takeOption_of_waiting hpending] at htake
                cases htake
          | refused h =>
              obtain ⟨fault, hfault⟩ := h p hended
              rw [hfault] at htake
              cases htake

end Progress

theorem exists_spells {arguments : List String} {i : Invocation} (h : read arguments = .ok i) :
    ∃ items, Spells arguments items :=
  (Progress.exists_spells_of_foldlM rfl h).1 ⟨rfl, nofun⟩

end ConsoleTap.Arguments
