import ConsoleTap.Proofs.Exchange.Noise
import ConsoleTap.Proofs.Session.Arrivals
import ConsoleTap.Session.Turn

/-!
# Noise in a session

Noise from the target waits before the receiver, then in the mailbox, then before the
dispatcher, and becomes a job that prints nothing.  `Noisy` is the relation between a
session with noise in these places and one without, at a moment when no lines are being
handed over.  This file has the parties in front of the dispatcher: the receiver, which
drops a text that is no object and hands any other on, and the runner and the handles,
which read nothing of all that.
-/

namespace ConsoleTap.Session

open ConsoleTap.Json
open ConsoleTap.Exchange (Sink IsEvent)

/-! ### What noise is -/

/-- The arrival is a text that is no frame, or a frame that is no event. -/
def Arrival.IsNoise (x : Arrival) : Prop :=
  ∃ text, x = .frame text ∧ ∀ frame, x.frame? = some frame → ¬ IsEvent frame

/-! ### Sessions with noise -/

/-- What is on its way in two sessions of which one has noise: the marks of its frames before the
    keeper and before the receiver, what waits for the dispatchers, and whether more can come. -/
structure Traffic where
  mail : List Mark
  inbound : List Mark
  noisyQueue : List Value
  queue : List Value
  keeper : Exchange.KeeperPhase
  hungUp : Bool
  expecting : Bool

/-- The state with other frames on their way and other jobs. -/
def State.dressed (s : State) (core : Exchange.State) (inbound : List Arrival) (taken : Nat)
    (jobs : List Job) : State :=
  { s with core := core, inbound := inbound, taken := taken, jobs := jobs }

/-- The first session is the second one with noise on its way and jobs that print nothing, at a
    moment when no lines are being handed over. -/
structure Noisy (w : Traffic) (s' s : State) : Prop where
  same : ∃ core inbound taken jobs, s' = s.dressed core inbound taken jobs
  core : Exchange.Noisy w.mail s'.taken s.taken s'.core s.core
  inbound : Strewn Arrival.frame? Arrival.IsNoise w.inbound s'.inbound s.inbound
  jobs : Littered (· = .lines []) s'.jobs s.jobs
  emitting : s.emitting = []
  noisyQueue : s'.queue = w.noisyQueue
  queue : s.queue = w.queue
  keeper : s.core.keeper = w.keeper
  hungUp : s.hungUp = w.hungUp
  expecting : s.expecting = w.expecting

variable {w : Traffic} {s' s : State}

theorem Noisy.littered (h : Noisy w s' s) : Littered (¬ IsEvent ·) w.noisyQueue w.queue := by
  rw [← h.noisyQueue, ← h.queue]
  exact h.core.queue

/-- What touches neither the exchange nor what is on its way keeps the relation. -/
theorem Noisy.map (h : Noisy w s' s) (f : State → State)
    (hdressed : ∀ core inbound taken jobs,
      f (s.dressed core inbound taken jobs) = (f s).dressed core inbound taken jobs)
    (hsame : (f s).dressed s.core s.inbound s.taken s.jobs = f s)
    (hemitting : (f s).emitting = s.emitting) (hhungUp : (f s).hungUp = s.hungUp)
    (hexpecting : (f s).expecting = s.expecting) : Noisy w (f s') (f s) := by
  obtain ⟨⟨core, inbound, taken, jobs, rfl⟩, hcore, hinbound, hjobs, hnone, hqueue', hqueue, hkeeper,
    hhung, hexpect⟩ := h
  rw [hdressed]
  refine ⟨⟨_, _, _, _, rfl⟩, ?_, ?_, ?_, hemitting.trans hnone, hqueue', ?_, ?_,
    hhungUp.trans hhung, hexpecting.trans hexpect⟩
  · rw [← hsame]
    exact hcore
  · rw [← hsame]
    exact hinbound
  · rw [← hsame]
    exact hjobs
  · rw [← hsame]
    exact hqueue
  · rw [← hsame]
    exact hkeeper

/-! ### Changes on both sides -/

theorem Noisy.withInbound (h : Noisy w s' s) {marks : List Mark} {inbound' inbound : List Arrival}
    (hstrewn : Strewn Arrival.frame? Arrival.IsNoise marks inbound' inbound) :
    Noisy { w with inbound := marks } { s' with inbound := inbound' }
      { s with inbound := inbound } := by
  obtain ⟨⟨core, _, taken, jobs, rfl⟩, hcore, -, hjobs, hnone, hqueue', hqueue, hkeeper, hhung,
    hexpect⟩ := h
  exact ⟨⟨_, _, _, _, rfl⟩, hcore, hstrewn, hjobs, hnone, hqueue', hqueue, hkeeper, hhung, hexpect⟩

theorem Noisy.withHungUp (h : Noisy w s' s) (hungUp : Bool) :
    Noisy { w with hungUp := hungUp } { s' with hungUp := hungUp } { s with hungUp := hungUp } := by
  obtain ⟨⟨core, inbound, taken, jobs, rfl⟩, hcore, hinbound, hjobs, hnone, hqueue', hqueue, hkeeper,
    -, hexpect⟩ := h
  exact ⟨⟨_, _, _, _, rfl⟩, hcore, hinbound, hjobs, hnone, hqueue', hqueue, hkeeper, rfl, hexpect⟩

theorem Noisy.withExpecting (h : Noisy w s' s) (expecting : Bool) :
    Noisy { w with expecting := expecting } { s' with expecting := expecting }
      { s with expecting := expecting } := by
  obtain ⟨⟨core, inbound, taken, jobs, rfl⟩, hcore, hinbound, hjobs, hnone, hqueue', hqueue, hkeeper,
    hhung, -⟩ := h
  exact ⟨⟨_, _, _, _, rfl⟩, hcore, hinbound, hjobs, hnone, hqueue', hqueue, hkeeper, hhung, rfl⟩

theorem Noisy.withJobs (h : Noisy w s' s) {jobs' jobs : List Job}
    (hjobs : Littered (· = .lines []) jobs' jobs) :
    Noisy w { s' with jobs := jobs' } { s with jobs := jobs } := by
  obtain ⟨⟨core, inbound, taken, _, rfl⟩, hcore, hinbound, -, hnone, hqueue', hqueue, hkeeper, hhung,
    hexpect⟩ := h
  exact ⟨⟨_, _, _, _, rfl⟩, hcore, hinbound, hjobs, hnone, hqueue', hqueue, hkeeper, hhung, hexpect⟩

/-- The exchanges may change as long as they stay related and the keepers' part stays as it is. -/
theorem Noisy.withCore (h : Noisy w s' s) {mail : List Mark} {core' core : Exchange.State}
    (hcore : Exchange.Noisy mail s'.taken s.taken core' core)
    (hpart' : core'.keepersPart = s'.core.keepersPart)
    (hpart : core.keepersPart = s.core.keepersPart) :
    Noisy { w with mail := mail } { s' with core := core' } { s with core := core } := by
  obtain ⟨⟨_, inbound, taken, jobs, rfl⟩, -, hinbound, hjobs, hnone, hqueue', hqueue, hkeeper,
    hhung, hexpect⟩ := h
  have hpassed' : core'.forwarded = _ := congrArg Prod.snd hpart'
  have hpassed : core.forwarded = _ := congrArg Prod.snd hpart
  refine ⟨⟨_, _, _, _, rfl⟩, hcore, hinbound, hjobs, hnone, ?_, ?_,
    (congrArg Prod.fst hpart).trans hkeeper, hhung, hexpect⟩
  · exact (congrArg (List.drop taken) hpassed').trans hqueue'
  · exact (congrArg (List.drop s.taken) hpassed).trans hqueue

/-- What another party than the keeper does in the exchange keeps the relation. -/
theorem Noisy.onCore (h : Noisy w s' s) (f : Exchange.State → Exchange.State)
    (hf : ∀ {i' i : Nat} {t' t : Exchange.State}, Exchange.Noisy w.mail i' i t' t →
      Exchange.Noisy w.mail i' i (f t') (f t))
    (hpart : ∀ t, (f t).keepersPart = t.keepersPart) : Noisy w (s'.onCore f) (s.onCore f) :=
  h.withCore (hf h.core) (hpart _) (hpart _)

theorem Noisy.note (h : Noisy w s' s) (n : Notice) : Noisy w (s'.note n) (s.note n) :=
  h.onCore (·.note n) (fun h => h.note n) (fun _ => rfl)

theorem Noisy.ask (h : Noisy w s' s) :
    Noisy w (s'.onCore (·.attempt .ask)) (s.onCore (·.attempt .ask)) :=
  h.onCore (·.attempt .ask) (fun h => h.ask) (fun _ => rfl)

theorem Noisy.callerTurn (h : Noisy w s' s) (sink : Sink) (n : Nat) :
    Noisy w (s'.onCore (Exchange.State.callerTurn sink n))
      (s.onCore (Exchange.State.callerTurn sink n)) :=
  h.onCore _ (fun h => h.callerTurn sink n) (Exchange.keepersPart_callerTurn sink n)

theorem Noisy.closerTurn (h : Noisy w s' s) (n : Nat) :
    Noisy w (s'.onCore (Exchange.State.closerTurn n)) (s.onCore (Exchange.State.closerTurn n)) :=
  h.onCore _ (fun h => h.closerTurn n) (Exchange.keepersPart_closerTurn n)

/-! ### Actions on both sides -/

/-- All of the first state, given the second. -/
theorem Noisy.exists_eq (h : Noisy w s' s) : ∃ mail passed log inbound taken jobs,
    s' = s.dressed (s.core.dressed mail passed log) inbound taken jobs := by
  obtain ⟨core, inbound, taken, jobs, rfl⟩ := h.same
  obtain ⟨mail, passed, log, hcore⟩ := h.core.same
  exact ⟨mail, passed, log, inbound, taken, jobs, congrArg (s.dressed · inbound taken jobs) hcore⟩

/-- What reads neither what is on its way nor the log reads the same in both. -/
theorem Noisy.read (h : Noisy w s' s) {β : Type} (f : State → β)
    (hf : ∀ mail passed log inbound taken jobs,
      f (s.dressed (s.core.dressed mail passed log) inbound taken jobs) = f s) : f s' = f s := by
  obtain ⟨mail, passed, log, inbound, taken, jobs, rfl⟩ := h.exists_eq
  exact hf mail passed log inbound taken jobs

theorem Noisy.options (h : Noisy w s' s) : s'.options = s.options :=
  h.read State.options fun _ _ _ _ _ _ => rfl

theorem Noisy.calls (h : Noisy w s' s) : s'.core.calls = s.core.calls :=
  h.read (fun s => s.core.calls) fun _ _ _ _ _ _ => rfl

theorem Noisy.hungUp_eq (h : Noisy w s' s) : s'.hungUp = s.hungUp :=
  h.read State.hungUp fun _ _ _ _ _ _ => rfl

theorem Noisy.expecting_eq (h : Noisy w s' s) : s'.expecting = s.expecting :=
  h.read State.expecting fun _ _ _ _ _ _ => rfl

theorem Noisy.noisy_emitting (h : Noisy w s' s) : s'.emitting = [] :=
  (h.read State.emitting fun _ _ _ _ _ _ => rfl).trans h.emitting

/-- States related as far as an action leads: it takes place in both or in neither. -/
abbrev NoisyStep (w : Traffic) : Option State → Option State → Prop := Option.Rel (Noisy w)

/-! ### The runner and handles -/

theorem Noisy.ceaseReceiving (h : Noisy w s' s) :
    Noisy w (s'.attempt .ceaseReceiving) (s.attempt .ceaseReceiving) := by
  refine rel_getD ?_ h
  obtain ⟨mail, passed, log, inbound, taken, jobs, rfl⟩ := h.exists_eq
  exact rel_guard Iff.rfl (h.map (fun s => { s with receiving := false })
    (fun _ _ _ _ => rfl) rfl rfl rfl rfl)

theorem Noisy.observe (h : Noisy w s' s) (how : Ending) :
    Noisy w (s'.attempt (.observe how)) (s.attempt (.observe how)) := by
  refine rel_getD ?_ h
  obtain ⟨mail, passed, log, inbound, taken, jobs, rfl⟩ := h.exists_eq
  have hseen : (s.dressed (s.core.dressed mail passed log) inbound taken jobs).canObserve how =
      s.canObserve how := by cases how <;> rfl
  refine rel_guard (by rw [hseen]; rfl) (((h.note (.ending how)).map
    (fun t => { t with runner := .shutting how s.core.closers.length })
    (fun _ _ _ _ => rfl) rfl rfl rfl rfl).ask)

theorem Noisy.join (h : Noisy w s' s) : Noisy w (s'.attempt .join) (s.attempt .join) := by
  refine rel_getD ?_ h
  obtain ⟨mail, passed, log, inbound, taken, jobs, rfl⟩ := h.exists_eq
  have hrunner : (s.dressed (s.core.dressed mail passed log) inbound taken jobs).runner =
      s.runner := rfl
  rw [step?, step?, hrunner]
  cases s.runner with
  | shutting how closer =>
      exact rel_guard Iff.rfl (h.map (fun s => { s with runner := .joining how })
        (fun _ _ _ _ => rfl) rfl rfl rfl rfl)
  | _ => exact .none

theorem Noisy.finish (h : Noisy w s' s) : Noisy w (s'.attempt .finish) (s.attempt .finish) := by
  refine rel_getD ?_ h
  obtain ⟨mail, passed, log, inbound, taken, jobs, rfl⟩ := h.exists_eq
  have hrunner : (s.dressed (s.core.dressed mail passed log) inbound taken jobs).runner =
      s.runner := rfl
  rw [step?, step?, hrunner]
  cases s.runner with
  | joining how =>
      exact rel_guard Iff.rfl (h.map (fun s => { s with runner := .done how })
        (fun _ _ _ _ => rfl) rfl rfl rfl rfl)
  | _ => exact .none

theorem Noisy.handleStep? (h : Noisy w s' s) (n : Nat) (closeFault : Option TransportFault) :
    NoisyStep w (s'.handleStep? n closeFault) (s.handleStep? n closeFault) := by
  obtain ⟨mail, passed, log, inbound, taken, jobs, rfl⟩ := h.exists_eq
  have hhandles : (s.dressed (s.core.dressed mail passed log) inbound taken jobs).handles =
      s.handles := rfl
  have hset : ∀ {t' t : State} (phase : HandlePhase), Noisy w t' t →
      Noisy w { t' with handles := s.handles.set n phase }
        { t with handles := s.handles.set n phase } := fun phase ht =>
    ht.map (fun t => { t with handles := s.handles.set n phase })
      (fun _ _ _ _ => rfl) rfl rfl rfl rfl
  rw [State.handleStep?, State.handleStep?, hhandles]
  cases s.handles[n]? with
  | none => exact .none
  | some phase =>
      cases phase with
      | asked => exact .some (hset _ h)
      | admitted => exact .some (hset (.shutting s.core.closers.length) (h.note .closing)).ask
      | shutting closer =>
          have hdone :
              (s.dressed (s.core.dressed mail passed log) inbound taken jobs).closerDone closer =
                s.closerDone closer := rfl
          simp only [hdone]
          split
          · have hclosed := (hset .done h).map
              (fun t => { t with channelCloses := s.channelCloses + 1 })
              (fun _ _ _ _ => rfl) rfl rfl rfl rfl
            cases closeFault with
            | none => exact .some hclosed
            | some cause => exact .some (hclosed.note (.closeFailed cause))
          · exact .none
      | done => exact .none

theorem Noisy.handle (h : Noisy w s' s) (n : Nat) (closeFault : Option TransportFault) :
    Noisy w (s'.attempt (.handle n closeFault)) (s.attempt (.handle n closeFault)) :=
  rel_getD (h.handleStep? n closeFault) h

theorem Noisy.closers (h : Noisy w s' s) : s'.core.closers = s.core.closers :=
  h.read (fun s => s.core.closers) fun _ _ _ _ _ _ => rfl

theorem Noisy.closed (h : Noisy w s' s) : s'.core.closed = s.core.closed :=
  h.read (fun s => s.core.closed) fun _ _ _ _ _ _ => rfl

theorem Noisy.handleTurn (h : Noisy w s' s) (sink : Sink) (n : Nat) :
    Noisy w (s'.handleTurn sink n) (s.handleTurn sink n) := by
  rw [State.handleTurn, State.handleTurn, h.closers]
  exact (((h.handle n none).handle n none).closerTurn _).handle n sink.closeFault

theorem Noisy.runnerTurn (h : Noisy w s' s) : Noisy w s'.runnerTurn s.runnerTurn := by
  rw [State.runnerTurn, State.runnerTurn, h.closers, h.closed]
  exact ((h.observe _).closerTurn _).join.finish

/-! ### The receiver -/

theorem receiveText_of_frame {text : String} {frame : Value}
    (hframe : (Arrival.frame text).frame? = some frame) :
    s.receiveText text = s.onCore (·.attempt (.route frame)) := by
  rw [Arrival.frame?] at hframe
  split at hframe
  · rename_i ms hread
    obtain rfl := Option.some.inj hframe
    rw [State.receiveText, hread]
    rfl
  · cases hframe

theorem receiveText_of_none {text : String} (hframe : (Arrival.frame text).frame? = none) :
    s.receiveText text = s.note (.malformedFrame (Json.byteLength text.toList)) := by
  rw [Arrival.frame?] at hframe
  split at hframe
  · cases hframe
  · rename_i hread
    rw [State.receiveText]
    split
    · rename_i ms heq
      exact absurd heq (hread ms)
    · rfl

/-- What both receive is received alike. -/
theorem Noisy.receiveArrival (h : Noisy w s' s) (x : Arrival) :
    ∃ mail, Noisy { w with mail := mail } (s'.receiveArrival x) (s.receiveArrival x) ∧
      (w.keeper = .running → mail = w.mail ++ marked Arrival.frame? false x) := by
  have hended : ∀ n : Notice, Noisy w { s'.note n with receiving := false }
      { s.note n with receiving := false } := fun n =>
    (h.note n).map (fun s => { s with receiving := false }) (fun _ _ _ _ => rfl) rfl rfl rfl rfl
  cases x with
  | frame text =>
      rw [State.receiveArrival, State.receiveArrival, marked]
      cases hframe : (Arrival.frame text).frame? with
      | some frame =>
          rw [receiveText_of_frame hframe, receiveText_of_frame hframe]
          obtain ⟨mail, hcore, hmail⟩ := h.core.route frame
          exact ⟨mail, h.withCore hcore (Exchange.keepersPart_attempt _ rfl)
            (Exchange.keepersPart_attempt _ rfl), fun hrunning => hmail (h.keeper.trans hrunning)⟩
      | none =>
          rw [receiveText_of_none hframe, receiveText_of_none hframe]
          exact ⟨w.mail, h.note _, fun _ => (List.append_nil _).symm⟩
  | failure cause => cases cause <;> exact ⟨w.mail, hended _, fun _ => (List.append_nil _).symm⟩
  | hangUp => exact ⟨w.mail, hended _, fun _ => (List.append_nil _).symm⟩

/-- Noise is received into the mailbox at most. -/
theorem Noisy.receiveNoise (h : Noisy w s' s) {x : Arrival} (hx : x.IsNoise) :
    ∃ mail, Noisy { w with mail := mail } (s'.receiveArrival x) s ∧
      (w.keeper = .running → mail = w.mail ++ marked Arrival.frame? true x) := by
  obtain ⟨text, rfl, hnoise⟩ := hx
  rw [State.receiveArrival, marked]
  cases hframe : (Arrival.frame text).frame? with
  | some frame =>
      rw [receiveText_of_frame hframe]
      obtain ⟨mail, hcore, hmail⟩ := h.core.routeNoise (hnoise frame hframe)
      exact ⟨mail, h.withCore hcore (Exchange.keepersPart_attempt _ rfl) rfl,
        fun hrunning => hmail (h.keeper.trans hrunning)⟩
  | none =>
      rw [receiveText_of_none hframe]
      exact ⟨w.mail, h.withCore (h.core.relogged _) rfl rfl, fun _ => (List.append_nil _).symm⟩

/-- The receiver takes something, unless the session is closed. -/
def State.receiveOpen (s : State) : State := if s.core.closed then s else s.attempt .receive

/-- The receiver has stopped, or would now. -/
def State.Deaf (s : State) : Prop := s.core.closed = true ∨ s.receiving = false

theorem receiveOpen_of_deaf (hdeaf : s.Deaf) : s.receiveOpen = s := by
  rw [State.receiveOpen]
  split
  · rfl
  · rename_i hclosed
    have hreceiving := hdeaf.resolve_left hclosed
    rw [State.attempt, step?, hreceiving]
    rfl

theorem receiveOpen_of_not_deaf (hdeaf : ¬ s.Deaf) {x : Arrival} {rest : List Arrival}
    (hinbound : s.inbound = x :: rest) :
    s.receiveOpen = { s with inbound := rest }.receiveArrival x := by
  rw [State.Deaf, not_or, Bool.not_eq_false] at hdeaf
  rw [State.receiveOpen, if_neg hdeaf.1, State.attempt, step?, hdeaf.2, hinbound]
  rfl

theorem Noisy.deaf (h : Noisy w s' s) : s'.Deaf ↔ s.Deaf :=
  iff_of_eq (h.read State.Deaf fun _ _ _ _ _ _ => rfl)

theorem receiveArrival_inbound (s : State) (x : Arrival) :
    (s.receiveArrival x).inbound = s.inbound := by
  cases x with
  | frame text =>
      rw [State.receiveArrival, State.receiveText]
      split <;> rfl
  | failure cause => cases cause <;> rfl
  | hangUp => rfl

/-- The receivers take what has arrived, along what waits for them. -/
theorem Noisy.iterate_receive {marks : List Mark} {inbound' inbound : List Arrival}
    (hstrewn : Strewn Arrival.frame? Arrival.IsNoise marks inbound' inbound) {w : Traffic}
    {s' s : State} (h : Noisy w s' s) (hmarks : w.inbound = marks) (hinbound' : s'.inbound = inbound')
    (hinbound : s.inbound = inbound) :
    ∃ mail rest, Noisy { w with mail := mail, inbound := rest }
        (State.receiveOpen^[inbound'.length] s') (State.receiveOpen^[inbound.length] s) ∧
      (w.keeper = .running → mail ++ rest = w.mail ++ w.inbound) := by
  induction hstrewn generalizing w s' s with
  | nil => exact ⟨w.mail, w.inbound, h, fun _ => rfl⟩
  | keep x hrest ih =>
      by_cases hdeaf : s.Deaf
      · rw [Function.iterate_fixed (receiveOpen_of_deaf (h.deaf.mpr hdeaf)),
          Function.iterate_fixed (receiveOpen_of_deaf hdeaf)]
        exact ⟨w.mail, w.inbound, h, fun _ => rfl⟩
      · rw [List.length_cons, List.length_cons, Function.iterate_succ_apply _ _ s',
          Function.iterate_succ_apply _ _ s, receiveOpen_of_not_deaf hdeaf hinbound,
          receiveOpen_of_not_deaf (mt h.deaf.mp hdeaf) hinbound']
        obtain ⟨mail, hreceived, hmail⟩ := (h.withInbound hrest).receiveArrival x
        obtain ⟨mail₂, rest, hnoisy, htotal⟩ := ih hreceived rfl (receiveArrival_inbound _ x)
          (receiveArrival_inbound _ x)
        refine ⟨mail₂, rest, hnoisy, fun hrunning => ?_⟩
        rw [htotal hrunning, hmail hrunning, hmarks, List.append_assoc]
  | drop x hx hrest ih =>
      by_cases hdeaf : s.Deaf
      · rw [Function.iterate_fixed (receiveOpen_of_deaf (h.deaf.mpr hdeaf)),
          Function.iterate_fixed (receiveOpen_of_deaf hdeaf)]
        exact ⟨w.mail, w.inbound, h, fun _ => rfl⟩
      · rw [List.length_cons, Function.iterate_succ_apply _ _ s',
          receiveOpen_of_not_deaf (mt h.deaf.mp hdeaf) hinbound']
        have hwaiting : Noisy _ _ { s with inbound := s.inbound } :=
          h.withInbound (hinbound ▸ hrest)
        obtain ⟨mail, hreceived, hmail⟩ := hwaiting.receiveNoise hx
        obtain ⟨mail₂, rest, hnoisy, htotal⟩ := ih hreceived rfl (receiveArrival_inbound _ x) hinbound
        refine ⟨mail₂, rest, hnoisy, fun hrunning => ?_⟩
        rw [htotal hrunning, hmail hrunning, hmarks, List.append_assoc]

theorem Noisy.receiverTurn (h : Noisy w s' s) :
    ∃ mail rest, Noisy { w with mail := mail, inbound := rest } s'.receiverTurn s.receiverTurn ∧
      (w.keeper = .running → mail ++ rest = w.mail ++ w.inbound) := by
  have hturn : ∀ s : State, s.receiverTurn =
      (State.receiveOpen^[s.inbound.length] s).attempt .ceaseReceiving := by
    intro s
    rw [State.receiverTurn, ← List.foldl_const]
    rfl
  obtain ⟨mail, rest, hnoisy, htotal⟩ := Noisy.iterate_receive h.inbound h rfl rfl rfl
  rw [hturn, hturn]
  exact ⟨mail, rest, hnoisy.ceaseReceiving, htotal⟩

end ConsoleTap.Session
