import ConsoleTap.Proofs.Session.Inert
import ConsoleTap.Proofs.Session.Unheard
import Mathlib.Data.List.Forall2

/-!
# A broken output does not disturb the session

When the reader of the lines goes away, in the middle of a group of lines or while the
session closes, everything goes on: the session writes the same commands under the same
ids, stays open or closes as it would have, and ends in the same step and in the same way.
Of each line that would have been delivered a notice is left.
-/

namespace ConsoleTap.Session

open ConsoleTap.Exchange (Sink Appends)

variable {b' b s' s : State}

/-! ### Turns -/

theorem Unheard.receiverTurn (h : Unheard b' b s' s) : Unheard b' b s'.receiverTurn s.receiverTurn := by
  rw [State.receiverTurn, State.receiverTurn, h.read State.inbound fun _ _ => rfl]
  refine Unheard.attempt (rel_foldl _ (fun {s' s} _ h => ?_) h) rfl
  rw [h.read (fun s => s.core.closed) fun _ _ => rfl]
  split
  · exact h
  · exact h.attempt rfl

theorem Unheard.keeperTurn (h : Unheard b' b s' s) : Unheard b' b s'.keeperTurn s.keeperTurn :=
  h.onCore .keeperTurns

theorem Unheard.runnerTurn (h : Unheard b' b s' s) : Unheard b' b s'.runnerTurn s.runnerTurn := by
  rw [State.runnerTurn, State.runnerTurn, h.read (fun s => s.core.closers) fun _ _ => rfl,
    h.read (fun s => s.core.closed) fun _ _ => rfl]
  exact ((Unheard.onCore (h.attempt rfl) (.closerTurn _)).attempt rfl).attempt rfl

theorem Unheard.serve (sink : Sink) (hops : Nat) (h : Unheard b' b s' s) (n : Nat) :
    Unheard b' b (State.serve sink hops s' n) (State.serve sink hops s n) := by
  induction hops generalizing s' s n with
  | zero => exact h
  | succ hops ih =>
      have hturn := h.onCore (.callerTurn (s.sinkNow sink) n)
      have hgrown := hturn.attempt (a := .grow n) rfl
      have hcalls : ∀ {t' t : State}, Unheard b' b t' t → t'.core.calls = t.core.calls :=
        fun h => h.read (fun s => s.core.calls) fun _ _ => rfl
      rw [State.serve, State.serve, h.read (fun s => s.sinkNow sink) fun _ _ => rfl]
      simp only [hcalls hturn, hcalls hgrown]
      exact rel_foldl _ (fun n h => ih h n) hgrown

theorem Unheard.serveJob (h : Unheard b' b s' s) (sink : Sink) (job : Job) :
    Unheard b' b (s'.serveJob sink job) (s.serveJob sink job) := by
  rw [State.serveJob, State.serveJob, h.read State.options fun _ _ => rfl]
  exact rel_foldl job.calls (fun n h => h.serve sink _ n) h

theorem Unheard.serveAnswered (h : Unheard b' b s' s) (sink : Sink) :
    Unheard b' b (s'.serveAnswered sink) (s.serveAnswered sink) := by
  rw [State.serveAnswered, State.serveAnswered,
    h.read (fun s => s.core.answered) fun _ _ => rfl]
  refine rel_foldl _ (fun {s' s} n h => ?_) h
  rw [h.read State.jobs fun _ _ => rfl]
  cases s.jobs.find? (fun job => (job.fetch? n).isSome) with
  | none => exact h
  | some job => exact h.serveJob sink job

theorem Unheard.takeTurn (h : Unheard b' b s' s) (sink : Sink) :
    Unheard b' b (s'.takeTurn sink) (s.takeTurn sink) := by
  have htaken := h.attempt (a := .take) rfl
  rw [State.takeTurn, State.takeTurn]
  simp only [h.read State.taken fun _ _ => rfl, htaken.read State.taken fun _ _ => rfl,
    htaken.read State.jobs fun _ _ => rfl]
  cases (s.attempt .take).jobs.getLast? with
  | none => exact htaken
  | some job =>
      simp only
      split
      · exact htaken.serveJob sink job
      · exact htaken

theorem Unheard.emitTurn (h : Unheard b' b s' s) : Unheard b' b s'.emitTurn s.emitTurn := by
  have hcollected := h.attempt (a := .collect) rfl
  rw [State.emitTurn, State.emitTurn]
  simp only [hcollected.read State.emitting fun _ _ => rfl]
  exact rel_foldl _ (fun _ h => h.attempt rfl) hcollected

theorem Unheard.dispatcherTurn (h : Unheard b' b s' s) (sink : Sink) :
    Unheard b' b (s'.dispatcherTurn sink) (s.dispatcherTurn sink) := by
  have hserved := h.serveAnswered sink
  have htaken := rel_foldl (R := Unheard b' b) (f := fun s _ => s.takeTurn sink)
    (s.serveAnswered sink).queue (fun _ h => h.takeTurn sink) hserved
  rw [State.dispatcherTurn, State.dispatcherTurn]
  simp only [hserved.read State.queue fun _ _ => rfl, htaken.read State.jobs fun _ _ => rfl]
  exact (Unheard.attempt (rel_foldl _ (fun _ h => h.emitTurn) htaken) rfl).attempt rfl

theorem Unheard.handleTurn (h : Unheard b' b s' s) (sink : Sink) (n : Nat) :
    Unheard b' b (s'.handleTurn sink n) (s.handleTurn sink n) := by
  rw [State.handleTurn, State.handleTurn, h.read (fun s => s.core.closers) fun _ _ => rfl]
  exact (Unheard.onCore ((h.attempt rfl).attempt rfl) (.closerTurn _)).attempt rfl

theorem Unheard.settle (h : Unheard b' b s' s) (sink : Sink) :
    Unheard b' b (s'.settle sink) (s.settle sink) :=
  rel_foldl _ (fun _ h => h.receiverTurn.keeperTurn.runnerTurn.dispatcherTurn sink) h

/-! ### Steps of a script -/

/-- The step with the reader staying. -/
def ScriptStep.kept (step : ScriptStep) : ScriptStep := { step with breakOutput := false }

/-- The state when all has arrived that arrives in a step. -/
def ScriptStep.arriving (step : ScriptStep) (s : State) : State :=
  let s := step.push.foldl (fun s text => s.attempt (.arrive (.frame text))) s
  let s := step.pushFailure.elim s fun cause => s.attempt (.arrive (.failure cause))
  if step.hangUp then s.attempt (.arrive .hangUp) else s

theorem attempt_arrive_gone (s : State) (x : Arrival) :
    State.attempt { s with outputGone := true } (.arrive x) =
      { s.attempt (.arrive x) with outputGone := true } := by
  simp only [State.attempt, step?, Option.getD_some]
  split <;> rfl

theorem arriving_gone (step : ScriptStep) (s : State) :
    step.arriving { s with outputGone := true } =
      { step.arriving s with outputGone := true } := by
  have htexts : ∀ (texts : List String) (s : State),
      texts.foldl (fun s text => s.attempt (.arrive (.frame text))) { s with outputGone := true } =
        { texts.foldl (fun s text => s.attempt (.arrive (.frame text))) s with
          outputGone := true } := by
    intro texts
    induction texts with
    | nil => exact fun s => rfl
    | cons text texts ih =>
        intro s
        rw [List.foldl_cons, List.foldl_cons, attempt_arrive_gone, ih]
  simp only [ScriptStep.arriving, htexts]
  cases step.pushFailure <;> cases step.hangUp <;> simp [attempt_arrive_gone]

/-- The channel's verdicts in a step. -/
def ScriptStep.sinkOf (step : ScriptStep) (sink : Sink) : Sink :=
  { sink with failing := step.failSink.or sink.failing }

theorem outside_eq (step : ScriptStep) (s : State) (sink : Sink) :
    step.outside ⟨s, sink⟩ =
      let s := step.arriving s
      let s := if step.breakOutput then s.attempt .breakOutput else s
      ⟨if step.close then (s.attempt .close).handleTurn (step.sinkOf sink) s.handles.length else s,
        step.sinkOf sink⟩ := rfl

theorem perform_state (step : ScriptStep) (w : World) :
    (step.perform w).state =
      step.advance.elim ((step.outside w).state.settle (step.outside w).sink) fun ms =>
        (((step.outside w).state.settle (step.outside w).sink).attempt (.tick ms)).settle
          (step.outside w).sink := by
  rw [ScriptStep.perform]
  cases step.advance with
  | none => simp only [Option.elim_none]
  | some ms => simp only [Option.elim_some]

theorem perform_sink (step : ScriptStep) (w : World) :
    (step.perform w).sink = step.sinkOf w.sink := by
  rw [ScriptStep.perform]
  cases step.advance with
  | none => rfl
  | some ms => rfl

/-- Whether the reader goes away in a step before or after all has arrived makes no difference. -/
theorem perform_gone {step : ScriptStep} (hbreak : step.breakOutput = true) (s : State)
    (sink : Sink) :
    step.perform ⟨{ s with outputGone := true }, sink⟩ = step.perform ⟨s, sink⟩ := by
  have houtside : step.outside ⟨{ s with outputGone := true }, sink⟩ = step.outside ⟨s, sink⟩ := by
    simp only [outside_eq, arriving_gone, hbreak]
    rfl
  rw [ScriptStep.perform, ScriptStep.perform, houtside]

theorem Unheard.arriving (h : Unheard b' b s' s) (step : ScriptStep) :
    Unheard b' b (step.arriving s') (step.kept.arriving s) := by
  have htexts := rel_foldl (R := Unheard b' b)
    (f := fun s text => s.attempt (.arrive (.frame text))) step.push (fun _ h => h.attempt rfl) h
  have hfailure : ∀ {t' t : State}, Unheard b' b t' t → Unheard b' b
      (step.pushFailure.elim t' fun cause => t'.attempt (.arrive (.failure cause)))
      (step.pushFailure.elim t fun cause => t.attempt (.arrive (.failure cause))) := by
    intro t' t ht
    cases step.pushFailure with
    | none => exact ht
    | some cause => exact ht.attempt rfl
  rw [ScriptStep.arriving, ScriptStep.arriving, ScriptStep.kept]
  simp only
  split
  · exact Unheard.attempt (hfailure htexts) rfl
  · exact hfailure htexts

theorem Unheard.breakOutput (h : Unheard b' b s' s) : s'.attempt .breakOutput = s' := by
  obtain ⟨log, emissions, rfl⟩ := h.same
  rfl

/-- A step in which the reader, who is gone, may go away, and the same step with the reader
    staying. -/
theorem Unheard.perform (h : Unheard b' b s' s) (step : ScriptStep) (sink : Sink) :
    Unheard b' b (step.perform ⟨s', sink⟩).state (step.kept.perform ⟨s, sink⟩).state := by
  have harrived := h.arriving step
  have houtside : Unheard b' b (step.outside ⟨s', sink⟩).state
      (step.kept.outside ⟨s, sink⟩).state := by
    have hstays : step.kept.breakOutput = false := rfl
    simp only [outside_eq, harrived.breakOutput, ite_self, hstays, Bool.false_eq_true, if_false,
      harrived.read State.handles fun _ _ => rfl]
    change Unheard b' b (if step.close then _ else _) (if step.close then _ else _)
    split
    · exact Unheard.handleTurn (harrived.attempt rfl) _ _
    · exact harrived
  have hsink : (step.kept.outside ⟨s, sink⟩).sink = (step.outside ⟨s', sink⟩).sink := rfl
  have hadvance : step.kept.advance = step.advance := rfl
  have hsettled := houtside.settle (step.outside ⟨s', sink⟩).sink
  rw [perform_state, perform_state, hsink, hadvance]
  cases step.advance with
  | none =>
      simp only [Option.elim_none]
      exact hsettled
  | some ms =>
      simp only [Option.elim_some]
      exact Unheard.settle (hsettled.attempt (a := .tick ms) rfl) _

/-! ### Reports -/

/-- The first report is of a session without a reader, the second one of the same with its reader:
    no line is delivered, each line of the second report has left one notice that it is lost in the
    first, and nothing else is different. -/
structure Report.Unheard (r' r : Report) : Prop where
  sent : r'.sent = r.sent
  alive : r'.alive = r.alive
  sinkClosed : r'.sinkClosed = r.sinkClosed
  ending : r'.ending = r.ending
  lines : r'.lines = []
  notices : Losses r.lines.length r'.notices r.notices

theorem output_of_emissions {s t : State} {lines : List String} {delivered : Bool}
    (h : t.emissions = s.emissions ++ lines.map (⟨·, delivered⟩)) :
    t.output = s.output ++ if delivered then lines else [] := by
  rw [State.output, h, List.filter_append, List.map_append, ← State.output]
  cases delivered <;> simp [List.filter_map, Function.comp_def]

theorem Unheard.report {t' t : State} (h : Unheard b' b s' s) (h₂ : Unheard s' s t' t) :
    (Report.between s' t').Unheard (Report.between s t) := by
  obtain ⟨lossy, notices, lines, hlosses, hlog', hlog, hemissions', hemissions⟩ := h₂.since
  have hsent : ∀ {c' c u' u : State}, Unheard c' c u' u → u'.core.sent = u.core.sent :=
    fun h => h.read (fun s => s.core.sent) fun _ _ => rfl
  have hlines : t.output.drop s.output.length = lines := by
    rw [output_of_emissions hemissions, if_pos rfl, List.drop_left]
  refine ⟨?_, h₂.read (fun s => !s.core.closed) fun _ _ => rfl,
    h₂.read (fun s => decide (0 < s.channelCloses)) fun _ _ => rfl,
    h₂.read State.ending? fun _ _ => rfl, ?_, ?_⟩
  · simp only [Report.between, hsent h, hsent h₂]
  · change t'.output.drop s'.output.length = []
    rw [output_of_emissions hemissions', if_neg Bool.false_ne_true, List.append_nil,
      List.drop_length]
  · change Losses (t.output.drop s.output.length).length (t'.core.log.drop s'.core.log.length)
      (t.core.log.drop s.core.log.length)
    rwa [hlines, hlog', hlog, List.drop_left, List.drop_left]

theorem Unheard.reports {w' w : World} (h : Unheard b' b w'.state w.state)
    (hsink : w'.sink = w.sink) (script : List ScriptStep) :
    List.Forall₂ Report.Unheard (runScript w' script)
      (runScript w (script.map ScriptStep.kept)) := by
  induction script generalizing b' b w' w with
  | nil => exact .nil
  | cons step rest ih =>
      obtain ⟨s', sink⟩ := w'
      obtain ⟨s, _⟩ := w
      obtain rfl : sink = _ := hsink
      have hnext := h.restart.perform step sink
      have hkept : (step.perform ⟨s', sink⟩).sink = (step.kept.perform ⟨s, sink⟩).sink := by
        rw [perform_sink, perform_sink]
        rfl
      rw [List.map_cons, runScript, runScript]
      exact .cons (h.report hnext) (ih hnext hkept)

/-! ### Whole scripts -/

/-- The session and its channel after some steps of a script. -/
def performAll (w : World) (steps : List ScriptStep) : World :=
  steps.foldl (fun w step => step.perform w) w

theorem runScript_append (w : World) (before after : List ScriptStep) :
    runScript w (before ++ after) = runScript w before ++ runScript (performAll w before) after := by
  induction before generalizing w with
  | nil => rfl
  | cons step before ih =>
      rw [List.cons_append, runScript, runScript, ih, List.cons_append]
      rfl

theorem heard_of_performAll {w : World} {steps : List ScriptStep}
    (hheard : w.state.outputGone = false) (hsteps : ∀ step ∈ steps, step.breakOutput = false) :
    (performAll w steps).state.outputGone = false := by
  induction steps generalizing w with
  | nil => exact hheard
  | cons step steps ih =>
      obtain ⟨s, sink⟩ := w
      -- the comparison says of the session that it is compared with that its reader stays
      have hnext := (Unheard.begin hheard).perform step sink
      have hkept : step.kept = step := by
        rw [ScriptStep.kept, ← hsteps step (by simp)]
      rw [hkept] at hnext
      exact ih hnext.heard fun step hmem => hsteps step (by simp [hmem])

theorem heard_of_run {u : State} {as : List Action} (hheard : s.outputGone = false)
    (has : ∀ a ∈ as, a.isBreak = false) (hrun : run? s as = some u) : u.outputGone = false := by
  have hrel := (Unheard.begin hheard).run as
  rw [List.filter_eq_self.mpr fun a ha => by rw [has a ha]; rfl, hrun] at hrel
  generalize run? { s with outputGone := true } as = r at hrel
  cases hrel with
  | some h => exact h.heard

theorem unheard_settled {r' r : Option State} (hr : UnheardStep b' b r' r) :
    Option.Rel (fun t' t => Unheard b' b t' t ∧ (Settled t' ↔ Settled t)) r' r := by
  cases hr with
  | none => exact .none
  | some h => exact .some ⟨h, h.settled_iff⟩

/-- A broken output does not disturb the session.  In any order of actions, when the reader of the
    lines has gone away a session can go on just as it could if the reader had stayed, and is the
    same then but for the lines, each of which is lost with one notice, and settles where the other
    one does.  And in a script, the steps before the one in which the reader goes away have the same
    reports, and from that step on the reports are the same but for the lines. -/
theorem broken_output_harmless :
    (∀ (s u : State) (before after : List Action), s.outputGone = false →
      (∀ a ∈ before, a.isBreak = false) → run? s before = some u →
      Option.Rel (fun t' t => Unheard u u t' t ∧ (Settled t' ↔ Settled t))
        (run? s (before ++ .breakOutput :: after))
        (run? s (before ++ after.filter fun a => !a.isBreak))) ∧
    ∀ (w : World) (before after : List ScriptStep) (step : ScriptStep),
      w.state.outputGone = false → (∀ step ∈ before, step.breakOutput = false) →
      step.breakOutput = true → ∃ broken whole,
        runScript w (before ++ step :: after) = runScript w before ++ broken ∧
        runScript w (before ++ (step :: after).map ScriptStep.kept) =
          runScript w before ++ whole ∧
        List.Forall₂ Report.Unheard broken whole := by
  constructor
  · intro s u before after hheard hbefore hrun
    have hrel := (Unheard.begin (heard_of_run hheard hbefore hrun)).run after
    rw [run?_append, run?_append, hrun, Option.bind_some, Option.bind_some, run?]
    exact unheard_settled hrel
  · intro w before after step hheard hbefore hbreak
    have hstays := heard_of_performAll hheard hbefore
    refine ⟨_, _, runScript_append w before _, runScript_append w before _, ?_⟩
    generalize performAll w before = v at hstays
    obtain ⟨s, sink⟩ := v
    -- the reader may as well have gone before anything arrives in the step
    have hreports := @Unheard.reports s s ⟨{ s with outputGone := true }, sink⟩ ⟨s, sink⟩
      (Unheard.begin hstays) rfl (step :: after)
    rw [runScript, perform_gone hbreak] at hreports
    exact hreports

/-- A session prints an object and has handed over two of its four lines. -/
def printingRun : List Action :=
  [.arrive (.frame (callFrame "7").compact), .receive, .core .handle, .take,
    .core (.caller 3 none), .core (.caller 3 none), .core (.caller 3 none), .core (.caller 3 none),
    .core .handle, .arrive (.frame sevenReply), .receive, .core .handle, .core (.caller 3 none),
    .grow 3, .collect, .emit, .emit]

/-- The target prints an object and answers for it, and the reader goes away before the lines; then
    the session is closed. -/
def brokenScript : List ScriptStep :=
  [{ push := [(callFrame "7").compact] }, { push := [sevenReply], breakOutput := true },
    { close := true }]

/-- What is delivered of an object if the reader goes away in the middle of it, what if not, and what
    is reported of the script. -/
theorem printing_eval :
    (run? (opened {}) printingRun).isSome = true ∧
      (run? (opened {}) (printingRun ++ .breakOutput :: [.emit, .emit])).map State.output =
        some ["[console.log]", "    \x7b"] ∧
      (run? (opened {}) (printingRun ++ [.emit, .emit])).map State.output =
        some ["[console.log]", "    \x7b", "      \"a\": 1", "    \x7d"] ∧
      (runScript ⟨opened {}, {}⟩ brokenScript).map
          (fun r => (r.lines, r.notices.countP (· = .lineLost), r.ending)) =
        [([], 0, none), ([], 4, none), ([], 0, some .closeRequested)] := by
  refine ⟨?_, ?_, ?_, ?_⟩ <;> cbv

theorem broken_output_harmless_printing :
    (∃ u t' t, run? (opened {}) printingRun = some u ∧
      run? (opened {}) (printingRun ++ .breakOutput :: [.emit, .emit]) = some t' ∧
      run? (opened {}) (printingRun ++ [.emit, .emit]) = some t ∧ Unheard u u t' t ∧
      t'.output = ["[console.log]", "    \x7b"] ∧
      t.output = ["[console.log]", "    \x7b", "      \"a\": 1", "    \x7d"]) ∧
    (∃ first broken whole,
      runScript ⟨opened {}, {}⟩ brokenScript = first ++ broken ∧
      runScript ⟨opened {}, {}⟩ (brokenScript.map ScriptStep.kept) = first ++ whole ∧
      List.Forall₂ Report.Unheard broken whole ∧
      (first ++ broken).map (fun r => (r.lines, r.notices.countP (· = .lineLost), r.ending)) =
        [([], 0, none), ([], 4, none), ([], 0, some .closeRequested)]) := by
  obtain ⟨hbefore, hbroken, hwhole, hscript⟩ := printing_eval
  constructor
  · obtain ⟨u, hu⟩ := Option.isSome_iff_exists.mp hbefore
    obtain ⟨t', ht', houtput'⟩ := Option.map_eq_some_iff.mp hbroken
    obtain ⟨t, ht, houtput⟩ := Option.map_eq_some_iff.mp hwhole
    have hrel := broken_output_harmless.1 (opened {}) u printingRun [.emit, .emit] rfl
      (by decide) hu
    have hrest : [Action.emit, .emit].filter (fun a => !a.isBreak) = [.emit, .emit] := rfl
    rw [hrest, ht', ht] at hrel
    cases hrel with
    | some h => exact ⟨u, t', t, hu, ht', ht, h.1, houtput', houtput⟩
  · obtain ⟨broken, whole, hfirst, hkept, hreports⟩ :=
      broken_output_harmless.2 ⟨opened {}, {}⟩ [{ push := [(callFrame "7").compact] }]
        [{ close := true }] { push := [sevenReply], breakOutput := true } rfl (by simp) rfl
    exact ⟨_, broken, whole, hfirst, hkept, hreports, hfirst ▸ hscript⟩

end ConsoleTap.Session
