import ConsoleTap.Exchange.Turn
import ConsoleTap.Proofs.Exchange.Frames
import ConsoleTap.Proofs.Results
import ConsoleTap.Proofs.Strewn
import Mathlib.Data.Option.Basic

/-!
# Noise in the mailbox

A frame that is no event and answers no pending request is passed on and changes nothing
else.  So an exchange with such frames on their way differs from one without them in its
mailbox, in what it has passed on and in its log, and in nothing else: `Noisy` is that
relation.  Callers and closers read none of the three, and what they put into the mailbox
comes last in both.
-/

namespace ConsoleTap.Exchange

open ConsoleTap.Json ConsoleTap.Target

/-! ### What noise is -/

/-- The methods of the events that a session makes lines of. -/
def eventMethods : List String := [consoleApiCalled, exceptionThrown, logEntryAdded]

/-- The frame is one of the known events, well-formed or not. -/
def IsEvent (frame : Value) : Prop :=
  ∃ method ∈ eventMethods, frame.get? "method" = some (.string method)

instance : DecidablePred IsEvent := fun frame =>
  inferInstanceAs (Decidable (∃ method ∈ eventMethods, frame.get? "method" = some (.string method)))

/-- The message brings a frame that is no event. -/
def Message.IsNoise (m : Message) : Prop := ∃ frame, m = .frame frame ∧ ¬ IsEvent frame

/-! ### States with noise -/

/-- The state with other frames on their way, before the keeper and behind it, and another log. -/
def State.dressed (s : State) (mail : List Message) (passed : List Value) (log : List Notice) :
    State :=
  { s with mailbox := mail, forwarded := passed, log := log }

/-- The first state is the second one with noise in the mailbox and among the frames passed on,
    of which the dispatcher has taken the first few. -/
structure Noisy (marks : List Mark) (taken' taken : Nat) (s' s : State) : Prop where
  same : ∃ mail passed log, s' = s.dressed mail passed log
  mail : Strewn Message.frame? Message.IsNoise marks s'.mailbox s.mailbox
  queue : Littered (¬ IsEvent ·) (s'.forwarded.drop taken') (s.forwarded.drop taken)
  taken' : taken' ≤ s'.forwarded.length
  taken : taken ≤ s.forwarded.length

variable {marks : List Mark} {i' i : Nat} {s' s : State}

/-- What touches neither the frames on their way nor reads them keeps the relation. -/
theorem Noisy.map (h : Noisy marks i' i s' s) (f : State → State)
    (hdressed : ∀ mail passed log, ∃ log',
      f (s.dressed mail passed log) = (f s).dressed mail passed log')
    (hmail : (f s).mailbox = s.mailbox) (hpassed : (f s).forwarded = s.forwarded) :
    Noisy marks i' i (f s') (f s) := by
  obtain ⟨⟨mail, passed, log, rfl⟩, hstrewn, hqueue, hi', hi⟩ := h
  obtain ⟨log', heq⟩ := hdressed mail passed log
  rw [heq]
  refine ⟨⟨_, _, _, rfl⟩, ?_, ?_, hi', ?_⟩
  · rw [hmail]
    exact hstrewn
  · rw [hpassed]
    exact hqueue
  · rw [hpassed]
    exact hi

/-- What reads neither the frames on their way nor the log reads the same in both. -/
theorem Noisy.read (h : Noisy marks i' i s' s) {β : Type} (f : State → β)
    (hf : ∀ mail passed log, f (s.dressed mail passed log) = f s) : f s' = f s := by
  obtain ⟨mail, passed, log, rfl⟩ := h.same
  exact hf mail passed log

theorem Noisy.keeper (h : Noisy marks i' i s' s) : s'.keeper = s.keeper :=
  h.read State.keeper fun _ _ _ => rfl

theorem Noisy.note (h : Noisy marks i' i s' s) (n : Notice) :
    Noisy marks i' i (s'.note n) (s.note n) :=
  h.map (·.note n) (fun _ _ _ => ⟨_, rfl⟩) rfl rfl

/-- What only one of the states logs makes no difference. -/
theorem Noisy.relogged (h : Noisy marks i' i s' s) (log : List Notice) :
    Noisy marks i' i { s' with log := log } s := by
  obtain ⟨⟨mail, passed, _, rfl⟩, hstrewn, hqueue, hi', hi⟩ := h
  exact ⟨⟨mail, passed, log, rfl⟩, hstrewn, hqueue, hi', hi⟩

theorem Noisy.setPhase (h : Noisy marks i' i s' s) (n : Nat) (phase : Phase) :
    Noisy marks i' i (s'.setPhase n phase) (s.setPhase n phase) :=
  h.map (·.setPhase n phase) (fun _ _ _ => ⟨_, rfl⟩) rfl rfl

theorem Noisy.giveWord (h : Noisy marks i' i s' s) (n : Nat) (outcome : Outcome) :
    Noisy marks i' i (s'.giveWord n outcome) (s.giveWord n outcome) :=
  h.map (·.giveWord n outcome) (fun _ _ _ => ⟨_, rfl⟩) rfl rfl

theorem Noisy.recordWrite (h : Noisy marks i' i s' s) (id : Nat) (c : Call)
    (refusal : Option TransportFault) :
    Noisy marks i' i (s'.recordWrite id c refusal) (s.recordWrite id c refusal) :=
  h.map (·.recordWrite id c refusal) (fun _ _ _ => ⟨_, rfl⟩) rfl rfl

theorem Noisy.expireAll (h : Noisy marks i' i s' s) :
    Noisy marks i' i s'.expireAll s.expireAll := by
  refine h.map State.expireAll (fun mail passed log => ?_) ?_ ?_
  · rw [State.expireAll_eq, State.expireAll_eq]
    exact ⟨_, rfl⟩
  · rw [State.expireAll_eq]
  · rw [State.expireAll_eq]

theorem Noisy.cancelAll (h : Noisy marks i' i s' s) :
    Noisy marks i' i s'.cancelAll s.cancelAll := by
  refine h.map State.cancelAll (fun mail passed log => ?_) ?_ ?_
  · rw [State.cancelAll_eq, State.cancelAll_eq]
    exact ⟨_, rfl⟩
  · rw [State.cancelAll_eq]
  · rw [State.cancelAll_eq]

/-- A message of another party comes last in both mailboxes. -/
theorem Noisy.post (h : Noisy marks i' i s' s) {m : Message} (hm : m.frame? = none) :
    Noisy marks i' i (s'.post m) (s.post m) := by
  obtain ⟨⟨mail, passed, log, rfl⟩, hstrewn, hqueue, hi', hi⟩ := h
  have hopen : (s.dressed mail passed log).mailboxOpen = s.mailboxOpen := rfl
  rw [State.post, State.post, hopen]
  by_cases hmailbox : s.mailboxOpen = true
  · rw [if_pos hmailbox, if_pos hmailbox]
    refine ⟨⟨_, _, _, rfl⟩, ?_, hqueue, hi', hi⟩
    have hlast := hstrewn.keep_last m
    rwa [marked, hm, Option.toList_none, List.map_nil, List.append_nil] at hlast
  · rw [if_neg hmailbox, if_neg hmailbox]
    exact ⟨⟨_, _, _, rfl⟩, hstrewn, hqueue, hi', hi⟩

theorem Noisy.withMail (h : Noisy marks i' i s' s) {marks₂ : List Mark} {mail' mail : List Message}
    (hstrewn : Strewn Message.frame? Message.IsNoise marks₂ mail' mail) :
    Noisy marks₂ i' i { s' with mailbox := mail' } { s with mailbox := mail } := by
  obtain ⟨⟨_, passed, log, rfl⟩, -, hqueue, hi', hi⟩ := h
  exact ⟨⟨mail', passed, log, rfl⟩, hstrewn, hqueue, hi', hi⟩

/-! ### Callers and closers -/

/-- States related as far as an action leads: it takes place in both or in neither. -/
abbrev NoisyStep (marks : List Mark) (i' i : Nat) : Option State → Option State → Prop :=
  Option.Rel (Noisy marks i' i)

theorem Noisy.callerStep? (h : Noisy marks i' i s' s) (n : Nat)
    (refusal : Option TransportFault) :
    NoisyStep marks i' i (s'.callerStep? n refusal) (s.callerStep? n refusal) := by
  obtain ⟨mail, passed, log, rfl⟩ := h.same
  have hcalls : (s.dressed mail passed log).calls = s.calls := rfl
  rw [State.callerStep?, State.callerStep?, hcalls]
  cases s.calls[n]? with
  | none => exact .none
  | some c =>
      cases hphase : c.phase with
      | started =>
          simp only [hphase]
          exact .some (h.setPhase n _)
      | admitted =>
          simp only [hphase]
          exact .some ((h.map (fun t => { t with nextId := s.nextId + 1 })
            (fun _ _ _ => ⟨_, rfl⟩) rfl rfl).setPhase n _)
      | numbered id =>
          simp only [hphase]
          cases c.limit with
          | some limit =>
              have hopen : (s.dressed mail passed log).mailboxOpen = s.mailboxOpen := rfl
              simp only [State.enqueue, hopen]
              split
              · exact .some ((h.post rfl).setPhase n _)
              · exact .some (h.setPhase n _)
          | none => exact .some ((h.recordWrite id c refusal).setPhase n _)
      | registered id =>
          simp only [hphase]
          exact .some ((h.recordWrite id c refusal).setPhase n _)
      | refused id cause =>
          simp only [hphase]
          exact .some ((h.post rfl).setPhase n _)
      | waiting id =>
          simp only [hphase]
          cases c.word with
          | none => exact .none
          | some outcome => exact .some (h.setPhase n _)
      | done outcome =>
          simp only [hphase]
          exact .none

theorem Noisy.closerStep? (h : Noisy marks i' i s' s) (n : Nat) :
    NoisyStep marks i' i (s'.closerStep? n) (s.closerStep? n) := by
  obtain ⟨mail, passed, log, rfl⟩ := h.same
  have hclosers : (s.dressed mail passed log).closers = s.closers := rfl
  have hset : ∀ {t' t : State} (phase : CloserPhase), Noisy marks i' i t' t →
      Noisy marks i' i { t' with closers := s.closers.set n phase }
        { t with closers := s.closers.set n phase } := fun phase ht =>
    ht.map (fun t => { t with closers := s.closers.set n phase }) (fun _ _ _ => ⟨_, rfl⟩) rfl rfl
  rw [State.closerStep?, State.closerStep?, hclosers]
  cases hcloser : s.closers[n]? with
  | none => exact .none
  | some phase =>
      cases phase with
      | asked => exact .some (hset _ h)
      | admitted =>
          exact .some (hset _ (h.map (fun s => { s with closed := true })
            (fun _ _ _ => ⟨_, rfl⟩) rfl rfl))
      | flagged => exact .some (hset _ (h.post rfl))
      | done => exact .none

theorem Noisy.begin (h : Noisy marks i' i s' s) (method : String) (params : Option Value)
    (limit : Option Nat) :
    Noisy marks i' i (s'.attempt (.begin method params limit))
      (s.attempt (.begin method params limit)) :=
  h.map (fun s => s.attempt (.begin method params limit)) (fun _ _ _ => ⟨_, rfl⟩) rfl rfl

theorem Noisy.ask (h : Noisy marks i' i s' s) :
    Noisy marks i' i (s'.attempt .ask) (s.attempt .ask) :=
  h.map (fun s => s.attempt .ask) (fun _ _ _ => ⟨_, rfl⟩) rfl rfl

theorem Noisy.tick (h : Noisy marks i' i s' s) (ms : Nat) :
    Noisy marks i' i (s'.attempt (.tick ms)) (s.attempt (.tick ms)) :=
  h.map (fun s => s.attempt (.tick ms)) (fun _ _ _ => ⟨_, rfl⟩) rfl rfl

theorem Noisy.callerTurn (h : Noisy marks i' i s' s) (sink : Sink) (n : Nat) :
    Noisy marks i' i (s'.callerTurn sink n) (s.callerTurn sink n) := by
  refine rel_foldl (List.range 5) (fun {s' s} _ h => ?_) h
  rw [State.advanceCaller, h.read State.writes fun _ _ _ => rfl]
  exact rel_getD (h.callerStep? n _) h

theorem Noisy.closerTurn (h : Noisy marks i' i s' s) (n : Nat) :
    Noisy marks i' i (s'.closerTurn n) (s.closerTurn n) :=
  rel_foldl (List.range 3) (fun _ h => rel_getD (h.closerStep? n) h) h

/-! ### Frames that arrive -/

/-- A frame that both receive comes last in both mailboxes, as long as they are open. -/
theorem Noisy.route (h : Noisy marks i' i s' s) (frame : Value) :
    ∃ marks', Noisy marks' i' i (s'.attempt (.route frame)) (s.attempt (.route frame)) ∧
      (s.keeper = .running → marks' = marks ++ [⟨frame, false⟩]) := by
  obtain ⟨mail, passed, log, rfl⟩ := h.same
  have hopen : (s.dressed mail passed log).mailboxOpen = s.mailboxOpen := rfl
  rw [State.attempt, State.attempt, step?, step?, Option.getD_some, Option.getD_some, hopen]
  by_cases hmailbox : s.mailboxOpen = true
  · rw [if_pos hmailbox, if_pos hmailbox, State.post, State.post, hopen, if_pos hmailbox,
      if_pos hmailbox]
    exact ⟨_, h.withMail (h.mail.keep_last (.frame frame)), fun _ => rfl⟩
  · rw [if_neg hmailbox, if_neg hmailbox]
    exact ⟨marks, h.note _, fun hrunning => absurd (mailboxOpen_of_running hrunning) hmailbox⟩

/-- Noise comes last in the mailbox of the exchange that receives it, as long as it is open. -/
theorem Noisy.routeNoise (h : Noisy marks i' i s' s) {frame : Value} (hframe : ¬ IsEvent frame) :
    ∃ marks', Noisy marks' i' i (s'.attempt (.route frame)) s ∧
      (s.keeper = .running → marks' = marks ++ [⟨frame, true⟩]) := by
  obtain ⟨mail, passed, log, rfl⟩ := h.same
  have hopen : (s.dressed mail passed log).mailboxOpen = s.mailboxOpen := rfl
  rw [State.attempt, step?, Option.getD_some, hopen]
  by_cases hmailbox : s.mailboxOpen = true
  · rw [if_pos hmailbox, State.post, hopen, if_pos hmailbox]
    have hnoise : Message.IsNoise (.frame frame) := ⟨frame, rfl, hframe⟩
    have hmailed : Noisy _ i' i _ { s with mailbox := s.mailbox } :=
      h.withMail (h.mail.drop_last hnoise)
    exact ⟨_, hmailed, fun _ => rfl⟩
  · rw [if_neg hmailbox]
    exact ⟨marks, h.relogged _, fun hrunning => absurd (mailboxOpen_of_running hrunning) hmailbox⟩

/-! ### What callers and closers leave alone -/

/-- Whether an action is the keeper's. -/
def Action.isKeepers : Action → Bool
  | .handle | .expire | .shut | .discard | .stop => true
  | .begin .. | .ask | .route _ | .leave | .tick _ | .caller .. | .closer _ => false

/-- How far the keeper has got, and what it has passed on. -/
def State.keepersPart (s : State) : KeeperPhase × List Value := (s.keeper, s.forwarded)

@[simp] theorem keepersPart_post (s : State) (m : Message) :
    (s.post m).keepersPart = s.keepersPart := by
  rw [State.post]
  split <;> rfl

theorem Move.keepersPart {t : State} {a : Action} (hmove : Move s a t) (ha : a.isKeepers = false) :
    t.keepersPart = s.keepersPart := by
  cases hmove with
  | withdraw hcall hphase => exact keepersPart_post s _
  | announce hcloser => exact keepersPart_post s _
  | takeRequest | takeForget | takeReply | takeEvent | dropEvent | takeShutdown | expire | shut
  | discardRequest | discardOther | stop => cases ha
  | _ => rfl

theorem keepersPart_attempt (s : State) {a : Action} (ha : a.isKeepers = false) :
    (s.attempt a).keepersPart = s.keepersPart := by
  rw [State.attempt]
  cases hstep : step? s a with
  | none => rfl
  | some t => exact (move_of_step hstep).keepersPart ha

theorem keepersPart_foldl {β : Type} {f : State → β → State} (l : List β)
    (hf : ∀ s x, (f s x).keepersPart = s.keepersPart) (s : State) :
    (l.foldl f s).keepersPart = s.keepersPart := by
  induction l generalizing s with
  | nil => rfl
  | cons x l ih => exact (ih (f s x)).trans (hf s x)

theorem keepersPart_callerTurn (sink : Sink) (n : Nat) (s : State) :
    (s.callerTurn sink n).keepersPart = s.keepersPart :=
  keepersPart_foldl _ (fun s _ => keepersPart_attempt s rfl) s

theorem keepersPart_closerTurn (n : Nat) (s : State) :
    (s.closerTurn n).keepersPart = s.keepersPart :=
  keepersPart_foldl _ (fun s _ => keepersPart_attempt s rfl) s

end ConsoleTap.Exchange
