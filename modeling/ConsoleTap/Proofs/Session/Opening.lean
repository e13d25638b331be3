import ConsoleTap.Proofs.Exchange.Muted
import ConsoleTap.Session.Turn

/-!
# How a session starts

A session that starts has written the three commands that switch the target's events
on, and all three were accepted: whatever the channel is like, it is in one state.
-/

namespace ConsoleTap.Session

open ConsoleTap.Json
open ConsoleTap.Exchange (Sink)

/-- The exchange of a session that has just started, with nothing logged. -/
def openedCore : Exchange.State where
  nextId := 4
  calls :=
    [⟨"Runtime.enable", none, none, .done (.ok (.integer 1)), none⟩,
      ⟨"Console.enable", none, none, .done (.ok (.integer 2)), none⟩,
      ⟨"Log.enable", none, none, .done (.ok (.integer 3)), none⟩]
  writes :=
    [⟨⟨1, "Runtime.enable", none⟩, none⟩, ⟨⟨2, "Console.enable", none⟩, none⟩,
      ⟨⟨3, "Log.enable", none⟩, none⟩]

/-- A session that has just started. -/
def opened (options : Options) : State where
  options := options
  core := openedCore.note .activated

/-- The exchange after a notification was begun and its caller had a turn. -/
def notified (core : Exchange.State) (method : String) (refusal : Option TransportFault) :
    Exchange.State :=
  { core with
    nextId := core.nextId + 1
    calls := core.calls ++ [⟨method, none, none,
      .done (match refusal with
        | none => .ok (.integer core.nextId)
        | some cause => .error (.transport cause)), none⟩]
    writes := core.writes ++ [⟨⟨core.nextId, method, none⟩, refusal⟩] }

theorem modify_append_last (calls : List Exchange.Call) (c : Exchange.Call)
    (f : Exchange.Call → Exchange.Call) :
    (calls ++ [c]).modify calls.length f = calls ++ [f c] := by
  induction calls with
  | nil => rfl
  | cons d calls ih => exact congrArg (d :: ·) ih

section Advance

variable (sink : Sink) (core : Exchange.State) (calls : List Exchange.Call) (method : String)

theorem advance_started (hclosed : core.closed = false) :
    Exchange.State.advanceCaller sink calls.length
        { core with calls := calls ++ [⟨method, none, none, .started, none⟩] } =
      { core with calls := calls ++ [⟨method, none, none, .admitted, none⟩] } := by
  simp [Exchange.State.advanceCaller, Exchange.State.attempt, Exchange.step?,
    Exchange.State.callerStep?, Exchange.State.setPhase, Exchange.State.updateCall,
    modify_append_last, hclosed]

theorem advance_admitted :
    Exchange.State.advanceCaller sink calls.length
        { core with calls := calls ++ [⟨method, none, none, .admitted, none⟩] } =
      { core with
        nextId := core.nextId + 1
        calls := calls ++ [⟨method, none, none, .numbered core.nextId, none⟩] } := by
  simp [Exchange.State.advanceCaller, Exchange.State.attempt, Exchange.step?,
    Exchange.State.callerStep?, Exchange.State.setPhase, Exchange.State.updateCall,
    modify_append_last]

theorem advance_numbered (id : Nat) :
    Exchange.State.advanceCaller sink calls.length
        { core with calls := calls ++ [⟨method, none, none, .numbered id, none⟩] } =
      { core with
        calls := calls ++ [⟨method, none, none,
          .done (match sink.verdict core.writes.length with
            | none => .ok (.integer id)
            | some cause => .error (.transport cause)), none⟩]
        writes := core.writes ++ [⟨⟨id, method, none⟩, sink.verdict core.writes.length⟩] } := by
  cases hverdict : sink.verdict core.writes.length <;>
    simp [Exchange.State.advanceCaller, Exchange.State.attempt, Exchange.step?,
      Exchange.State.callerStep?, Exchange.State.write, Exchange.State.recordWrite,
      Exchange.State.setPhase, Exchange.State.updateCall, modify_append_last, hverdict]

theorem advance_done (outcome : Exchange.Outcome) :
    Exchange.State.advanceCaller sink calls.length
        { core with calls := calls ++ [⟨method, none, none, .done outcome, none⟩] } =
      { core with calls := calls ++ [⟨method, none, none, .done outcome, none⟩] } := by
  simp [Exchange.State.advanceCaller, Exchange.State.attempt, Exchange.step?,
    Exchange.State.callerStep?]

theorem callerTurn_notify (hclosed : core.closed = false) :
    (core.attempt (.begin method none none)).callerTurn sink core.calls.length =
      notified core method (sink.verdict core.writes.length) := by
  have hturn : ∀ s : Exchange.State, s.callerTurn sink core.calls.length =
      ((((s.advanceCaller sink core.calls.length).advanceCaller sink
        core.calls.length).advanceCaller sink core.calls.length).advanceCaller sink
          core.calls.length).advanceCaller sink core.calls.length := fun _ => rfl
  have hbegin : core.attempt (.begin method none none) =
      { core with calls := core.calls ++ [⟨method, none, none, .started, none⟩] } := rfl
  have hstarted := advance_started sink core core.calls method hclosed
  have hadmitted := advance_admitted sink core core.calls method
  have hnumbered := advance_numbered sink { core with nextId := core.nextId + 1 } core.calls method
    core.nextId
  have hdone := advance_done sink
    { core with
      nextId := core.nextId + 1
      writes := core.writes ++ [⟨⟨core.nextId, method, none⟩, sink.verdict core.writes.length⟩] }
    core.calls method
    (match sink.verdict core.writes.length with
      | none => .ok (.integer core.nextId)
      | some cause => .error (.transport cause))
  rw [hturn, hbegin]
  generalize Exchange.State.advanceCaller sink core.calls.length = advance at *
  rw [hstarted, hadmitted, hnumbered, hdone, hdone]
  rfl

end Advance

theorem activate_cons (sink : Sink) (core : Exchange.State) (hclosed : core.closed = false)
    (method : String) (rest : List String) {core' : Exchange.State}
    (h : State.activate sink core (method :: rest) = (core', none)) :
    State.activate sink (notified core method none) rest = (core', none) := by
  unfold State.activate at h
  simp only [callerTurn_notify sink core method hclosed] at h
  cases hverdict : sink.verdict core.writes.length with
  | none => simpa [hverdict, notified, Exchange.Call.outcome?] using h
  | some cause => simp [hverdict, notified, Exchange.Call.outcome?] at h

/-- A session that starts is in the one state that a session can start in. -/
theorem start_eq_opened {options : Options} {sink : Sink} {s : State}
    (h : State.start options sink = .ok s) : s = opened options := by
  have hcases : ∃ core, State.activate sink {} Target.openingMethods = (core, none) ∧
      s = { options := options, core := core.note .activated } := by
    rw [State.start] at h
    rcases hactivate : State.activate sink {} Target.openingMethods with ⟨core, _ | cause⟩
    · rw [hactivate] at h
      exact ⟨core, rfl, (Except.ok.inj h).symm⟩
    · rw [hactivate] at h
      cases h
  obtain ⟨core, hactivate, rfl⟩ := hcases
  have hdone := activate_cons sink _ rfl _ _ (activate_cons sink _ rfl _ _
    (activate_cons sink _ rfl _ _ hactivate))
  obtain rfl : _ = core := (Prod.mk.inj hdone).1
  rfl

theorem start_default : State.start {} {} = .ok (opened {}) := rfl

/-- The actions that lead an exchange to where a session starts. -/
def openingActions : List Exchange.Action :=
  Target.openingMethods.zipIdx.flatMap fun (method, n) =>
    [.begin method none none, .caller n none, .caller n none, .caller n none]

theorem run_openingActions : Exchange.run? {} openingActions = some openedCore := rfl

end ConsoleTap.Session
