import ConsoleTap.Proofs.Exchange.Hearing
import ConsoleTap.Proofs.Session.Blanks
import ConsoleTap.Session.Script
import Mathlib

/-!
# Noise from the target is inert

A script may push, besides the texts it means to, any others that are no JSON object, or
frames that are no event and answer no request pending when the keeper takes them.  The
session writes the same commands, hands over the same lines, and ends the same way, step
by step.
-/

namespace ConsoleTap.Session

open ConsoleTap.Json ConsoleTap.Target
open ConsoleTap.Exchange (Sink IsEvent)

/-! ### What a script is, with noise -/

/-- The frame that a text is, if it is one. -/
def textFrame? (text : String) : Option Value := (Arrival.frame text).frame?

/-- The text is no frame, or the frame of no event. -/
def IsNoise (text : String) : Prop := ∀ frame, textFrame? text = some frame → ¬ IsEvent frame

theorem isNoise_iff {text : String} :
    IsNoise text ↔ ((textFrame? text).all fun frame => !decide (IsEvent frame)) = true := by
  rw [IsNoise]
  cases textFrame? text with
  | none => simp
  | some frame => simp

/-- The first script is the second one with noise among the texts that it pushes; the marks tell of
    the frames that it pushes, in order, which of them are noise. -/
inductive StrewnScript : List Mark → List ScriptStep → List ScriptStep → Prop where
  | nil : StrewnScript [] [] []
  | cons {marks later : List Mark} {texts : List String} {noisy clean : List ScriptStep}
      (step : ScriptStep) (htexts : Strewn textFrame? IsNoise marks texts step.push)
      (h : StrewnScript later noisy clean) :
      StrewnScript (marks ++ later) ({ step with push := texts } :: noisy) (step :: clean)

/-! ### What the keeper hears in a script -/

/-- The frames that the keeper takes in a round. -/
def State.heardInRound (s : State) : List Hearing := s.receiverTurn.core.heard

/-- The frames that the keeper takes until everything is settled. -/
def State.heardSettling (sink : Sink) (s : State) : List Hearing :=
  during (State.round sink) State.heardInRound 4 s

/-- The frames that the keeper takes in a step of a script. -/
def ScriptStep.heard (step : ScriptStep) (w : World) : List Hearing :=
  let w := step.outside w
  w.state.heardSettling w.sink ++
    match step.advance with
    | some ms => ((w.state.settle w.sink).attempt (.tick ms)).heardSettling w.sink
    | none => []

/-- The frames that the keeper takes in a script, in order. -/
def heard (w : World) : List ScriptStep → List Hearing
  | [] => []
  | step :: rest => step.heard w ++ heard (step.perform w) rest

/-! ### Rounds -/

/-- The keeper will not take noise for a reply, in what is on its way and in what is still to be
    pushed. What is pushed after the target has hung up does not arrive. -/
def Traffic.Clears (w : Traffic) (later : List Mark) (ahead : List Hearing) : Prop :=
  (w.keeper = .running ∧ ∃ lost, Unheeded (w.mail ++ w.inbound ++ lost ++ later) ahead ∧
    (w.hungUp = false → lost = [])) ∨ w.keeper = .stopped

/-- The first session is the second one with noise, and takes none of it for a reply in what is
    still to come. -/
def Inert (later : List Mark) (ahead : List Hearing) (s' s : State) : Prop :=
  ∃ w, Noisy w s' s ∧ w.Clears later ahead

variable {later : List Mark} {ahead : List Hearing} {s' s : State}

theorem Inert.receiverTurn (h : Inert later ahead s' s) :
    Inert later ahead s'.receiverTurn s.receiverTurn := by
  obtain ⟨w, hnoisy, hclears⟩ := h
  obtain ⟨mail, rest, hreceived, htotal⟩ := hnoisy.receiverTurn
  refine ⟨_, hreceived, hclears.imp_left fun ⟨hrunning, lost, hunheeded, hlost⟩ => ?_⟩
  rw [← htotal hrunning] at hunheeded
  exact ⟨hrunning, lost, hunheeded, hlost⟩

theorem Inert.keeperTurn (h : Inert later (s'.core.heard ++ ahead) s' s) :
    Inert later ahead s'.keeperTurn s.keeperTurn := by
  obtain ⟨w, hnoisy, ⟨hrunning, lost, hunheeded, hlost⟩ | hstopped⟩ := h
  · rw [List.append_assoc, List.append_assoc] at hunheeded
    obtain ⟨hcore, hend⟩ := hnoisy.core.keeperTurns (hnoisy.keeper.trans hrunning) hunheeded
    obtain ⟨core, inbound, taken, jobs, rfl⟩ := hnoisy.same
    refine ⟨⟨[], w.inbound, core.keeperTurns.forwarded.drop taken, s.keeperTurn.queue,
        s.core.keeperTurns.keeper, w.hungUp, w.expecting⟩,
      ⟨⟨_, _, _, _, rfl⟩, hcore, hnoisy.inbound, hnoisy.jobs, hnoisy.emitting, rfl, rfl, rfl,
        hnoisy.hungUp, hnoisy.expecting⟩,
      hend.imp_left fun ⟨hkept, hlater⟩ => ⟨hkept, lost, ?_, hlost⟩⟩
    rw [List.nil_append, List.append_assoc]
    exact hlater
  · have hstopped' : s'.core.keeper = .stopped :=
      hnoisy.core.keeper.trans (hnoisy.keeper.trans hstopped)
    rw [State.keeperTurn, State.keeperTurn, State.onCore, State.onCore,
      Exchange.keeperTurns_of_stopped hstopped',
      Exchange.keeperTurns_of_stopped (hnoisy.keeper.trans hstopped)]
    exact ⟨w, hnoisy, .inr hstopped⟩

theorem Inert.round (sink : Sink) (h : Inert later (s'.heardInRound ++ ahead) s' s) :
    Inert later ahead (s'.round sink) (s.round sink) := by
  obtain ⟨w, hnoisy, hclears⟩ := h.receiverTurn.keeperTurn
  obtain ⟨_, _, _, hdispatched⟩ := hnoisy.runnerTurn.dispatcherTurn sink
  exact ⟨_, hdispatched, hclears⟩

theorem Inert.rounds (sink : Sink) (n : Nat)
    (h : Inert later (during (State.round sink) State.heardInRound n s' ++ ahead) s' s) :
    Inert later ahead ((State.round sink)^[n] s') ((State.round sink)^[n] s) := by
  induction n generalizing s' s with
  | zero => exact h
  | succ n ih =>
      rw [during, List.append_assoc] at h
      rw [Function.iterate_succ_apply, Function.iterate_succ_apply]
      exact ih (h.round sink)

theorem Inert.settle (sink : Sink) (h : Inert later (s'.heardSettling sink ++ ahead) s' s) :
    Inert later ahead (s'.settle sink) (s.settle sink) := by
  rw [State.settle, State.settle, List.foldl_const, List.foldl_const]
  exact h.rounds sink 4

/-! ### Steps of a script -/

section Clears

variable {w : Traffic} {marks : List Mark} (hclears : w.Clears (marks ++ later) ahead)
include hclears

/-- What is pushed after the target has hung up is lost. -/
theorem Traffic.Clears.lose (hhungUp : w.hungUp = true) : w.Clears later ahead := by
  refine hclears.imp_left fun ⟨hrunning, lost, hunheeded, _⟩ => ⟨hrunning, lost ++ marks, ?_, ?_⟩
  · rw [← List.append_assoc] at hunheeded ⊢
    exact hunheeded
  · intro hup
    rw [hhungUp] at hup
    cases hup

/-- What is pushed before comes last in what waits. -/
theorem Traffic.Clears.wait (hhungUp : w.hungUp = false) (hungUp : Bool) :
    Traffic.Clears { w with inbound := w.inbound ++ marks, hungUp := hungUp } later ahead := by
  refine hclears.imp_left fun ⟨hrunning, lost, hunheeded, hlost⟩ =>
    ⟨hrunning, [], ?_, fun _ => rfl⟩
  rw [hlost hhungUp, List.append_nil, ← List.append_assoc, List.append_assoc w.mail] at hunheeded
  rw [List.append_nil]
  exact hunheeded

end Clears

/-- What arrives in both sessions waits in both, unless the target has hung up. -/
theorem Inert.arrive {x : Arrival} (h : Inert (marked Arrival.frame? false x ++ later) ahead s' s) :
    Inert later ahead (s'.attempt (.arrive x)) (s.attempt (.arrive x)) := by
  obtain ⟨w, hnoisy, hclears⟩ := h
  rw [State.attempt, State.attempt, step?, step?, Option.getD_some, Option.getD_some,
    hnoisy.hungUp_eq]
  by_cases hhung : s.hungUp = true
  · rw [if_pos hhung, if_pos hhung]
    exact ⟨w, hnoisy, hclears.lose (hnoisy.hungUp.symm.trans hhung)⟩
  · rw [if_neg hhung, if_neg hhung]
    rw [hnoisy.hungUp, Bool.not_eq_true] at hhung
    exact ⟨_, (hnoisy.withInbound (hnoisy.inbound.keep_last x)).withHungUp _, hclears.wait hhung _⟩

/-- Noise that arrives waits in the one session. -/
theorem Inert.arriveNoise {x : Arrival} (hx : x.IsNoise)
    (h : Inert (marked Arrival.frame? true x ++ later) ahead s' s) :
    Inert later ahead (s'.attempt (.arrive x)) s := by
  obtain ⟨w, hnoisy, hclears⟩ := h
  rw [State.attempt, step?, Option.getD_some, hnoisy.hungUp_eq]
  by_cases hhung : s.hungUp = true
  · rw [if_pos hhung]
    exact ⟨w, hnoisy, hclears.lose (hnoisy.hungUp.symm.trans hhung)⟩
  · rw [if_neg hhung]
    rw [Bool.not_eq_true] at hhung
    obtain ⟨text, rfl, -⟩ := id hx
    have hsame : { s with hungUp := false } = s := by rw [← hhung]
    have hinbound : Noisy _ _ { s with inbound := s.inbound } :=
      hnoisy.withInbound (hnoisy.inbound.drop_last hx)
    have hwaiting : Noisy _ _ { s with hungUp := false } := hinbound.withHungUp false
    rw [hsame] at hwaiting
    exact ⟨_, hwaiting, hclears.wait (hnoisy.hungUp.symm.trans hhung) false⟩

theorem Inert.arriveTexts {marks : List Mark} {noisy clean : List String}
    (hstrewn : Strewn textFrame? IsNoise marks noisy clean) {s' s : State}
    (h : Inert (marks ++ later) ahead s' s) :
    Inert later ahead (noisy.foldl (fun s text => s.attempt (.arrive (.frame text))) s')
      (clean.foldl (fun s text => s.attempt (.arrive (.frame text))) s) := by
  induction hstrewn generalizing s' s with
  | nil => exact h
  | keep text hrest ih =>
      rw [List.append_assoc] at h
      exact ih h.arrive
  | drop text htext hrest ih =>
      rw [List.append_assoc] at h
      exact ih (h.arriveNoise ⟨text, rfl, htext⟩)

theorem Inert.map {t' t : State} (h : Inert later ahead s' s)
    (ht : ∀ {w : Traffic}, Noisy w s' s → Noisy w t' t) : Inert later ahead t' t :=
  h.imp fun _ ⟨hnoisy, hclears⟩ => ⟨ht hnoisy, hclears⟩

theorem Inert.tick (h : Inert later ahead s' s) (ms : Nat) :
    Inert later ahead (s'.attempt (.tick ms)) (s.attempt (.tick ms)) :=
  h.map fun h => h.onCore (·.attempt (.tick ms)) (fun h => h.tick ms) (fun _ => rfl)

theorem Inert.close (h : Inert later ahead s' s) (sink : Sink) :
    Inert later ahead ((s'.attempt .close).handleTurn sink s'.handles.length)
      ((s.attempt .close).handleTurn sink s.handles.length) := by
  refine h.map fun {w} h => ?_
  obtain ⟨core, inbound, taken, jobs, rfl⟩ := h.same
  exact (h.map (fun t => { t with handles := s.handles ++ [.asked] })
    (fun _ _ _ _ => rfl) rfl rfl rfl rfl).handleTurn sink s.handles.length

theorem Inert.breakOutput (h : Inert later ahead s' s) :
    Inert later ahead (s'.attempt .breakOutput) (s.attempt .breakOutput) :=
  h.map fun h => h.map (fun t => { t with outputGone := true }) (fun _ _ _ _ => rfl) rfl rfl rfl rfl

/-- What the world outside does in a step of a script it does to both sessions; what it pushes to
    the one may have noise in it. -/
theorem Inert.outside {marks : List Mark} {texts : List String} {step : ScriptStep}
    (htexts : Strewn textFrame? IsNoise marks texts step.push) {sink : Sink}
    (h : Inert (marks ++ later) ahead s' s) :
    Inert later ahead (ScriptStep.outside { step with push := texts } ⟨s', sink⟩).state
        (step.outside ⟨s, sink⟩).state := by
  have hfailure : ∀ {t' t : State}, Inert later ahead t' t →
      Inert later ahead
        (step.pushFailure.elim t' fun cause => t'.attempt (.arrive (.failure cause)))
        (step.pushFailure.elim t fun cause => t.attempt (.arrive (.failure cause))) := by
    intro t' t ht
    cases step.pushFailure with
    | none => exact ht
    | some cause => exact Inert.arrive ht
  have hhangUp : ∀ {t' t : State}, Inert later ahead t' t →
      Inert later ahead (if step.hangUp then t'.attempt (.arrive .hangUp) else t')
        (if step.hangUp then t.attempt (.arrive .hangUp) else t) := by
    intro t' t ht
    split
    · exact Inert.arrive ht
    · exact ht
  have hbreak : ∀ {t' t : State}, Inert later ahead t' t →
      Inert later ahead (if step.breakOutput then t'.attempt .breakOutput else t')
        (if step.breakOutput then t.attempt .breakOutput else t) := by
    intro t' t ht
    split
    · exact ht.breakOutput
    · exact ht
  have hclose : ∀ {t' t : State} (sink : Sink), Inert later ahead t' t →
      Inert later ahead
        (if step.close then (t'.attempt .close).handleTurn sink t'.handles.length else t')
        (if step.close then (t.attempt .close).handleTurn sink t.handles.length else t) := by
    intro t' t sink ht
    split
    · exact ht.close sink
    · exact ht
  exact hclose _ (hbreak (hhangUp (hfailure (h.arriveTexts htexts))))

/-- A step of both scripts. -/
theorem Inert.perform {marks : List Mark} {texts : List String} {step : ScriptStep}
    (htexts : Strewn textFrame? IsNoise marks texts step.push) {sink : Sink}
    (h : Inert (marks ++ later)
      (ScriptStep.heard { step with push := texts } ⟨s', sink⟩ ++ ahead) s' s) :
    Inert later ahead (ScriptStep.perform { step with push := texts } ⟨s', sink⟩).state
      (step.perform ⟨s, sink⟩).state := by
  rw [ScriptStep.heard] at h
  rw [ScriptStep.perform, ScriptStep.perform]
  cases hadvance : step.advance with
  | none =>
      simp only [hadvance, List.append_nil] at h ⊢
      exact (h.outside htexts).settle _
  | some ms =>
      simp only [hadvance, List.append_assoc] at h ⊢
      exact (((h.outside htexts).settle _).tick ms).settle _

/-! ### Reports -/

/-- A report without what was logged. -/
def Report.silenced (r : Report) : Report := { r with notices := [] }

theorem Noisy.report {w w₂ : Traffic} {t' t : State} (h : Noisy w s' s) (h₂ : Noisy w₂ t' t) :
    (Report.between s' t').silenced = (Report.between s t).silenced := by
  obtain ⟨mail, passed, log, inbound, taken, jobs, rfl⟩ := h.exists_eq
  obtain ⟨mail₂, passed₂, log₂, inbound₂, taken₂, jobs₂, rfl⟩ := h₂.exists_eq
  rfl

theorem Inert.reports {marks : List Mark} {noisy clean : List ScriptStep}
    (hstrewn : StrewnScript marks noisy clean) {noisyWorld world : World}
    (hsink : noisyWorld.sink = world.sink)
    (h : Inert marks (heard noisyWorld noisy) noisyWorld.state world.state) :
    (runScript noisyWorld noisy).map Report.silenced = (runScript world clean).map Report.silenced := by
  induction hstrewn generalizing noisyWorld world with
  | nil => rfl
  | @cons marks later texts noisy clean step htexts hrest ih =>
      obtain ⟨s', sink⟩ := noisyWorld
      obtain ⟨s, _⟩ := world
      obtain rfl : sink = _ := hsink
      have hnext := Inert.perform htexts h
      have hsink : (ScriptStep.perform { step with push := texts } ⟨s', sink⟩).sink =
          (step.perform ⟨s, sink⟩).sink := by
        rw [ScriptStep.perform, ScriptStep.perform]
        cases step.advance <;> rfl
      have hreport : (Report.between s'
            (ScriptStep.perform { step with push := texts } ⟨s', sink⟩).state).silenced =
          (Report.between s (step.perform ⟨s, sink⟩).state).silenced := by
        obtain ⟨w, hnoisy, -⟩ := h
        obtain ⟨w₂, hnoisy₂, -⟩ := hnext
        exact hnoisy.report hnoisy₂
      rw [runScript, runScript, List.map_cons, List.map_cons, hreport, ih hsink hnext]

/-! ### Whole scripts -/

theorem inert_opened {options : Options} {marks : List Mark} {ahead : List Hearing}
    (hunheeded : Unheeded marks ahead) : Inert marks ahead (opened options) (opened options) := by
  refine ⟨⟨[], [], [], [], .running, false, true⟩,
    ⟨⟨_, _, _, _, rfl⟩, ⟨⟨_, _, _, rfl⟩, .nil, .refl _, le_rfl, le_rfl⟩, .nil, .refl _, rfl, rfl, rfl,
      rfl, rfl, rfl⟩, .inl ⟨rfl, [], hunheeded, fun _ => rfl⟩⟩

/-- Noise from the target is inert: in whatever places it stands among the texts that a script
    pushes, the session writes the same commands, hands over the same lines, and is open, has its
    channel closed and ends as it would without it, in every step of the script. -/
theorem noise_inert {options : Options} {sink : Sink} {s : State}
    (hstart : State.start options sink = .ok s) {marks : List Mark}
    {noisy clean : List ScriptStep} (hstrewn : StrewnScript marks noisy clean)
    (hunheeded : Unheeded marks (heard ⟨s, sink⟩ noisy)) :
    (runScript ⟨s, sink⟩ noisy).map Report.silenced =
      (runScript ⟨s, sink⟩ clean).map Report.silenced := by
  obtain rfl := start_eq_opened hstart
  exact Inert.reports hstrewn rfl (inert_opened hunheeded)

/-- The reply of the target about the object that it printed. -/
def sevenReply : String := (replyFrame 4 [propertyNamed "a" 1]).compact

/-- The target prints an object and answers for it; then the session is closed. -/
def plainScript : List ScriptStep :=
  [{ push := [(callFrame "7").compact] }, { push := [sevenReply] }, { close := true }]

/-- The same with noise: texts that are no object, an event that nobody knows, a reply to nobody, and
    the reply once more. -/
def noisyScript : List ScriptStep :=
  [{ push := ["[1,", (callFrame "7").compact, "[1]", "\x7b\"method\":\"Page.loaded\"\x7d"] },
    { push := ["\x7b\"id\":5\x7d", sevenReply, sevenReply] }, { push := ["7"], close := true }]

/-- Which of the frames that the keeper takes are awaited, the lines of each step, and the end. -/
theorem noisyScript_eval :
    ((heard ⟨opened {}, {}⟩ noisyScript).map Hearing.awaited,
      (runScript ⟨opened {}, {}⟩ noisyScript).map fun r => (r.lines, r.ending)) =
      ([false, false, false, true, false],
        [([], none), (["[console.log]", "    \x7b", "      \"a\": 1", "    \x7d"], none),
          ([], some .closeRequested)]) := by
  cbv

theorem noise_inert_strewn :
    State.start {} {} = .ok (opened {}) ∧ ∃ marks, StrewnScript marks noisyScript plainScript ∧
      marks.map Mark.noise = [false, true, true, false, true] ∧
      Unheeded marks (heard ⟨opened {}, {}⟩ noisyScript) ∧
      ((runScript ⟨opened {}, {}⟩ noisyScript).map Report.silenced =
        (runScript ⟨opened {}, {}⟩ plainScript).map Report.silenced) ∧
      ((runScript ⟨opened {}, {}⟩ plainScript).map fun r => (r.lines, r.ending)) =
        [([], none), (["[console.log]", "    \x7b", "      \"a\": 1", "    \x7d"], none),
          ([], some .closeRequested)] := by
  have hscript : ∃ marks, StrewnScript marks noisyScript plainScript ∧
      marks.map Mark.noise = [false, true, true, false, true] := by
    refine ⟨_, .cons { push := [(callFrame "7").compact] }
        (.drop _ (isNoise_iff.mpr ?_) (.keep _ (.drop _ (isNoise_iff.mpr ?_)
          (.drop _ (isNoise_iff.mpr ?_) .nil))))
      (.cons { push := [sevenReply] }
        (.drop _ (isNoise_iff.mpr ?_) (.keep _ (.drop _ (isNoise_iff.mpr ?_) .nil)))
      (.cons { close := true } (.drop _ (isNoise_iff.mpr ?_) .nil) .nil)), ?_⟩
    all_goals cbv
  obtain ⟨marks, hstrewn, hmarks⟩ := hscript
  have hunheeded : Unheeded marks (heard ⟨opened {}, {}⟩ noisyScript) := by
    apply unheeded_of_all
    rw [hmarks, (Prod.mk.inj noisyScript_eval).1]
    rfl
  have hinert := noise_inert start_default hstrewn hunheeded
  have hlines := congrArg (List.map fun r => (r.lines, r.ending)) hinert
  rw [List.map_map, List.map_map] at hlines
  exact ⟨start_default, marks, hstrewn, hmarks, hunheeded, hinert,
    hlines.symm.trans (Prod.mk.inj noisyScript_eval).2⟩

end ConsoleTap.Session
