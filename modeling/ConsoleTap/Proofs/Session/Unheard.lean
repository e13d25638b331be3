import ConsoleTap.Proofs.Exchange.Relogged
import ConsoleTap.Proofs.Results
import ConsoleTap.Proofs.Session.Move
import ConsoleTap.Proofs.Session.Opening
import ConsoleTap.Proofs.Strewn
import ConsoleTap.Session.Script

/-!
# When nobody takes the lines

Two sessions are compared, one whose reader of the lines has gone away and one whose reader
stays (`Unheard`).  What hands over a line notes in the one that the line is lost, where it
is delivered in the other; nothing else reads whether there is a reader, and nothing at all
reads the log or the lines handed over.  So every action takes place in both or in neither,
and whatever a session does besides handing over lines it does in both.
-/

namespace ConsoleTap.Session

open ConsoleTap.Json
open ConsoleTap.Exchange (Sink Appends)

/-! ### Lost lines -/

/-- The first notices are the second ones with so many notices of a lost line among them. -/
structure Losses (count : Nat) (lossy notices : List Notice) : Prop where
  littered : Littered (· = .lineLost) lossy notices
  length : lossy.length = notices.length + count

theorem losses_nil : Losses 0 [] [] := ⟨.refl [], rfl⟩

namespace Losses

variable {count : Nat} {lossy notices : List Notice}

theorem append (h : Losses count lossy notices) (more : List Notice) :
    Losses count (lossy ++ more) (notices ++ more) := by
  induction more using List.reverseRecOn with
  | nil => simpa only [List.append_nil] using h
  | append_singleton more n ih =>
      rw [← List.append_assoc, ← List.append_assoc]
      refine ⟨ih.littered.keep_last n, ?_⟩
      have hlength := ih.length
      simp only [List.length_append, List.length_singleton] at hlength ⊢
      omega

theorem lose (h : Losses count lossy notices) :
    Losses (count + 1) (lossy ++ [.lineLost]) notices := by
  refine ⟨h.littered.drop_last rfl, ?_⟩
  rw [List.length_append, h.length, List.length_singleton, Nat.add_assoc]

end Losses

/-! ### Two sessions -/

/-- The state if the reader of the lines is gone, with what was logged and handed over then. -/
def State.unheard (s : State) (log : List Notice) (emissions : List Emission) : State :=
  { s with core := s.core.relogged log, emissions := emissions, outputGone := true }

/-- The first session has no reader of its lines and the second one has, and they are the same
    otherwise; and since the one was in the first state and the other in the second, each line that
    was delivered in the one was lost in the other, and nothing else was different. -/
structure Unheard (b' b s' s : State) : Prop where
  same : ∃ log emissions, s' = s.unheard log emissions
  heard : s.outputGone = false
  since : ∃ (lossy notices : List Notice) (lines : List String), Losses lines.length lossy notices ∧
    s'.core.log = b'.core.log ++ lossy ∧ s.core.log = b.core.log ++ notices ∧
    s'.emissions = b'.emissions ++ lines.map (⟨·, false⟩) ∧
    s.emissions = b.emissions ++ lines.map (⟨·, true⟩)

variable {b' b s' s t : State} {a : Action}

/-- From where the sessions are now the comparison can begin again. -/
theorem Unheard.restart (h : Unheard b' b s' s) : Unheard s' s s' s :=
  ⟨h.same, h.heard, [], [], [], losses_nil, by simp⟩

/-- What reads neither the log nor what was handed over reads the same in both. -/
theorem Unheard.read (h : Unheard b' b s' s) {β : Type} (f : State → β)
    (hf : ∀ log emissions, f (s.unheard log emissions) = f s) : f s' = f s := by
  obtain ⟨log, emissions, rfl⟩ := h.same
  exact hf log emissions

/-- What touches neither the log nor what was handed over keeps the relation. -/
theorem Unheard.map (h : Unheard b' b s' s) (f : State → State)
    (hf : ∀ log emissions, f (s.unheard log emissions) = (f s).unheard log emissions)
    (hlog : (f s).core.log = s.core.log) (hemissions : (f s).emissions = s.emissions)
    (houtput : (f s).outputGone = s.outputGone) : Unheard b' b (f s') (f s) := by
  obtain ⟨⟨log, emissions, rfl⟩, hheard, hsince⟩ := h
  rw [hf]
  refine ⟨⟨log, emissions, rfl⟩, houtput.trans hheard, ?_⟩
  rw [hlog, hemissions]
  exact hsince

/-- What the exchange does keeps the relation, whatever it notes. -/
theorem Unheard.onCore (h : Unheard b' b s' s) {f : Exchange.State → Exchange.State}
    (hf : Appends f) : Unheard b' b (s'.onCore f) (s.onCore f) := by
  obtain ⟨⟨log, emissions, rfl⟩, hheard, lossy, notices, lines, hlosses, hlog', hlog, hemissions⟩ := h
  obtain ⟨more, hmore⟩ := hf s.core
  have hcore : (s.unheard log emissions).onCore f =
      (s.onCore f).unheard (log ++ more) emissions :=
    congrArg (fun core => { s.unheard log emissions with core := core }) (hmore log)
  -- what is noted in the one is what is noted in the other, whose log is a log like any other
  have hkept : (f s.core).log = s.core.log ++ more :=
    congrArg Exchange.State.log (hmore s.core.log)
  refine ⟨⟨_, _, hcore⟩, hheard, lossy ++ more, notices ++ more, lines, hlosses.append more, ?_, ?_,
    hemissions⟩
  · rw [hcore, ← List.append_assoc, ← hlog']
    rfl
  · rw [← List.append_assoc, ← hlog]
    exact hkept

theorem Unheard.note (h : Unheard b' b s' s) (n : Notice) : Unheard b' b (s'.note n) (s.note n) :=
  h.onCore (.note n)

theorem Unheard.ask (h : Unheard b' b s' s) :
    Unheard b' b (s'.onCore (·.attempt .ask)) (s.onCore (·.attempt .ask)) :=
  h.onCore (.attempt .ask)

theorem Unheard.beginFetches (h : Unheard b' b s' s) (handles : List String) :
    Unheard b' b (s'.beginFetches handles) (s.beginFetches handles) := by
  obtain ⟨log, emissions, rfl⟩ := h.same
  exact h.onCore (.foldl handles fun _ => .attempt _)

/-! ### Actions -/

/-- States related as far as an action leads: it takes place in both or in neither. -/
abbrev UnheardStep (b' b : State) : Option State → Option State → Prop :=
  Option.Rel (Unheard b' b)

theorem Unheard.exchangeStep (h : Unheard b' b s' s) (a : Exchange.Action) :
    UnheardStep b' b ((Exchange.step? s'.core a).map fun core => { s' with core := core })
      ((Exchange.step? s.core a).map fun core => { s with core := core }) := by
  have hattempt := h.onCore (.attempt a)
  obtain ⟨log, emissions, rfl⟩ := h.same
  have hstep : Exchange.step? (s.unheard log emissions).core a = _ :=
    Exchange.step?_relogged s.core log a
  simp only [State.onCore, Exchange.State.attempt, hstep] at hattempt
  rw [hstep]
  cases hcore : Exchange.step? s.core a with
  | none => exact .none
  | some core =>
      rw [hcore] at hattempt
      exact .some hattempt

theorem Unheard.receiveArrival (h : Unheard b' b s' s) (x : Arrival) :
    Unheard b' b (s'.receiveArrival x) (s.receiveArrival x) := by
  have hend : ∀ n, Unheard b' b { s'.note n with receiving := false }
      { s.note n with receiving := false } := fun n =>
    (h.note n).map (fun s => { s with receiving := false }) (fun _ _ => rfl) rfl rfl rfl
  cases x with
  | frame text =>
      simp only [State.receiveArrival, State.receiveText]
      split
      · exact h.onCore (.attempt _)
      · exact h.note _
  | failure cause =>
      cases cause with
      | closed => exact hend _
      | _ => exact hend _
  | hangUp => exact hend _

theorem Unheard.receive (h : Unheard b' b s' s) :
    UnheardStep b' b (step? s' .receive) (step? s .receive) := by
  rw [step?, step?, h.read State.receiving fun _ _ => rfl, h.read State.inbound fun _ _ => rfl]
  cases s.receiving with
  | false => exact .none
  | true =>
      cases s.inbound with
      | nil => exact .none
      | cons x rest =>
          -- that it is receiving has become part of the state, so it is put there again
          have hrest := h.map (fun s => { s with inbound := rest, receiving := true })
            (fun _ _ => rfl) rfl rfl rfl
          exact .some (hrest.receiveArrival x)

theorem Unheard.takeFrame (h : Unheard b' b s' s) (frame : Value) :
    Unheard b' b (s'.takeFrame frame) (s.takeFrame frame) := by
  have hnoted : Unheard b' b ((Print.frameNotices frame).foldl State.note s')
      ((Print.frameNotices frame).foldl State.note s) := rel_foldl _ (fun n h => h.note n) h
  have hjobs := hnoted.map (fun t => { t with
      taken := s.taken + 1
      jobs := s.jobs ++ [(Job.ofFrame s.options.maxDepth s.core.calls.length frame).1] })
    (fun _ _ => rfl) rfl rfl rfl
  have hfetches := hjobs.beginFetches
    (Job.ofFrame s.options.maxDepth s.core.calls.length frame).2
  obtain ⟨log, emissions, rfl⟩ := h.same
  rw [foldl_note, foldl_note] at hfetches
  rw [State.takeFrame, State.takeFrame, foldl_note, foldl_note]
  exact hfetches

theorem Unheard.take (h : Unheard b' b s' s) :
    UnheardStep b' b (step? s' .take) (step? s .take) := by
  rw [step?, step?, h.read State.expecting fun _ _ => rfl, h.read State.queue fun _ _ => rfl]
  cases s.expecting with
  | false => exact .none
  | true =>
      cases s.queue with
      | nil => exact .none
      | cons frame rest => exact .some (h.takeFrame frame)

theorem Unheard.growCall? (h : Unheard b' b s' s) (n : Nat) :
    UnheardStep b' b (s'.growCall? n) (s.growCall? n) := by
  rw [State.growCall?, State.growCall?, h.read (fun s => s.core.calls) fun _ _ => rfl,
    h.read State.jobs fun _ _ => rfl]
  cases s.core.calls[n]?.bind Exchange.Call.outcome? with
  | none => exact .none
  | some outcome =>
      cases s.jobs.findSome? (Job.fetch? n) with
      | none => exact .none
      | some fetch =>
          have hgrown : ∀ {t' t : State} (growth : Growth), Unheard b' b t' t →
              Unheard b' b
                ({ t' with jobs := t'.jobs.map (Job.fill n growth.part) }.beginFetches
                  growth.handles)
                ({ t with jobs := t.jobs.map (Job.fill n growth.part) }.beginFetches
                  growth.handles) := fun growth ht =>
            (ht.map (fun t => { t with jobs := t.jobs.map (Job.fill n growth.part) })
              (fun _ _ => rfl) rfl rfl rfl).beginFetches _
          cases hnotice : (fetch.grow s.core.calls.length outcome).notice with
          | none =>
              simp only [hnotice]
              exact .some (hgrown _ h)
          | some notice =>
              simp only [hnotice]
              exact .some (hgrown _ (h.note notice))

theorem Unheard.collect? (h : Unheard b' b s' s) : UnheardStep b' b s'.collect? s.collect? := by
  rw [State.collect?, State.collect?, h.read State.emitting fun _ _ => rfl,
    h.read State.jobs fun _ _ => rfl]
  cases s.emitting with
  | cons line rest => exact .none
  | nil =>
      cases s.jobs with
      | nil => exact .none
      | cons job rest =>
          cases hlines : job.lines? with
          | none =>
              simp only [hlines]
              exact .none
          | some ls =>
              simp only [hlines]
              exact .some (h.map (fun s => { s with jobs := rest, emitting := ls })
                (fun _ _ => rfl) rfl rfl rfl)

/-- A line that is delivered in the one session is lost in the other. -/
theorem Unheard.emit? (h : Unheard b' b s' s) : UnheardStep b' b s'.emit? s.emit? := by
  obtain ⟨⟨log, emissions, rfl⟩, hheard, lossy, notices, lines, hlosses, hlog', hlog, hemissions',
    hemissions⟩ := h
  have hsame : (s.unheard log emissions).emitting = s.emitting := rfl
  rw [State.emit?, State.emit?, hsame]
  cases s.emitting with
  | nil => exact .none
  | cons line rest =>
      simp only [hheard, Bool.false_eq_true, if_false]
      refine .some ⟨⟨log ++ [.lineLost], emissions ++ [⟨line, false⟩], rfl⟩, rfl,
        lossy ++ [.lineLost], notices, lines ++ [line], ?_, ?_, hlog, ?_, ?_⟩
      · rw [List.length_append]
        exact hlosses.lose
      · rw [← List.append_assoc, ← hlog']
        rfl
      · rw [List.map_append, ← List.append_assoc, ← hemissions']
        rfl
      · rw [List.map_append, ← List.append_assoc, ← hemissions]
        rfl

theorem Unheard.observe (h : Unheard b' b s' s) (how : Ending) :
    UnheardStep b' b (step? s' (.observe how)) (step? s (.observe how)) := by
  have hseen := h.read (fun s => s.runner = .watching ∧ s.canObserve how = true) fun _ _ => by
    cases how <;> rfl
  have hobserved := ((h.note (.ending how)).map
    (fun t => { t with runner := .shutting how s.core.closers.length })
    (fun _ _ => rfl) rfl rfl rfl).ask
  obtain ⟨log, emissions, rfl⟩ := h.same
  exact rel_guard (iff_of_eq hseen) hobserved

theorem Unheard.join (h : Unheard b' b s' s) :
    UnheardStep b' b (step? s' .join) (step? s .join) := by
  obtain ⟨log, emissions, rfl⟩ := id h.same
  rw [step?, step?, h.read State.runner fun _ _ => rfl]
  cases s.runner with
  | shutting how closer =>
      exact rel_guard Iff.rfl (h.map (fun s => { s with runner := .joining how })
        (fun _ _ => rfl) rfl rfl rfl)
  | _ => exact .none

theorem Unheard.finish (h : Unheard b' b s' s) :
    UnheardStep b' b (step? s' .finish) (step? s .finish) := by
  obtain ⟨log, emissions, rfl⟩ := id h.same
  rw [step?, step?, h.read State.runner fun _ _ => rfl]
  cases s.runner with
  | joining how =>
      exact rel_guard Iff.rfl (h.map (fun s => { s with runner := .done how })
        (fun _ _ => rfl) rfl rfl rfl)
  | _ => exact .none

theorem Unheard.handleStep? (h : Unheard b' b s' s) (n : Nat)
    (closeFault : Option TransportFault) :
    UnheardStep b' b (s'.handleStep? n closeFault) (s.handleStep? n closeFault) := by
  obtain ⟨log, emissions, rfl⟩ := id h.same
  have hset : ∀ {t' t : State} (phase : HandlePhase), Unheard b' b t' t →
      Unheard b' b { t' with handles := s.handles.set n phase }
        { t with handles := s.handles.set n phase } := fun phase ht =>
    ht.map (fun t => { t with handles := s.handles.set n phase }) (fun _ _ => rfl) rfl rfl rfl
  rw [State.handleStep?, State.handleStep?, h.read State.handles fun _ _ => rfl]
  cases s.handles[n]? with
  | none => exact .none
  | some phase =>
      cases phase with
      | asked => exact .some (hset _ h)
      | admitted => exact .some (hset (.shutting s.core.closers.length) (h.note .closing)).ask
      | shutting closer =>
          have hclosed := (hset .done h).map
            (fun t => { t with channelCloses := s.channelCloses + 1 }) (fun _ _ => rfl) rfl rfl rfl
          cases closeFault with
          | none => exact rel_guard Iff.rfl hclosed
          | some cause => exact rel_guard Iff.rfl (hclosed.note (.closeFailed cause))
      | done => exact .none

/-- Whether the reader of the lines goes away by an action. -/
def Action.isBreak : Action → Bool
  | .breakOutput => true
  | _ => false

/-- Whatever happens happens in both, or in neither. -/
theorem Unheard.step (h : Unheard b' b s' s) (ha : a.isBreak = false) :
    UnheardStep b' b (step? s' a) (step? s a) := by
  cases a with
  | arrive x =>
      have harrived := h.map (fun t => { t with
          inbound := s.inbound ++ [x]
          hungUp := decide (x = .hangUp) }) (fun _ _ => rfl) rfl rfl rfl
      obtain ⟨log, emissions, rfl⟩ := h.same
      have hsame : (s.unheard log emissions).hungUp = s.hungUp := rfl
      rw [step?, step?, hsame]
      by_cases hhung : s.hungUp = true
      · rw [if_pos hhung, if_pos hhung]
        exact .some h
      · rw [if_neg hhung, if_neg hhung]
        exact .some harrived
  | close =>
      have hasked := h.map (fun t => { t with handles := s.handles ++ [.asked] }) (fun _ _ => rfl)
        rfl rfl rfl
      obtain ⟨log, emissions, rfl⟩ := h.same
      exact .some hasked
  | breakOutput => cases ha
  | tick ms => exact h.exchangeStep (.tick ms)
  | core a =>
      rw [step?, step?]
      split
      · exact h.exchangeStep a
      · exact .none
  | receive => exact h.receive
  | ceaseReceiving =>
      have hceased := h.map (fun s => { s with receiving := false }) (fun _ _ => rfl) rfl rfl rfl
      obtain ⟨log, emissions, rfl⟩ := h.same
      exact rel_guard Iff.rfl hceased
  | take => exact h.take
  | expectNone =>
      have hceased := h.map (fun s => { s with expecting := false }) (fun _ _ => rfl) rfl rfl rfl
      obtain ⟨log, emissions, rfl⟩ := h.same
      exact rel_guard Iff.rfl hceased
  | grow n => exact h.growCall? n
  | collect => exact h.collect?
  | emit => exact h.emit?
  | ceaseDispatching =>
      have hceased := h.map (fun s => { s with dispatching := false }) (fun _ _ => rfl) rfl rfl rfl
      obtain ⟨log, emissions, rfl⟩ := h.same
      exact rel_guard Iff.rfl hceased
  | observe how => exact h.observe how
  | join => exact h.join
  | finish => exact h.finish
  | handle n closeFault => exact h.handleStep? n closeFault

theorem Unheard.attempt (h : Unheard b' b s' s) (ha : a.isBreak = false) :
    Unheard b' b (s'.attempt a) (s.attempt a) :=
  rel_getD (h.step ha) h

/-- The one session settles where the other one does. -/
theorem Unheard.settled_iff (h : Unheard b' b s' s) : Settled s' ↔ Settled s := by
  have hnone : ∀ a : Action, a.isInner = true → (step? s' a = none ↔ step? s a = none) := by
    intro a hinner
    have hstays : a.isBreak = false := by
      cases a with
      | breakOutput => cases hinner
      | _ => rfl
    exact rel_none_iff (h.step hstays)
  exact ⟨fun h a ha => (hnone a ha).mp (h a ha), fun h a ha => (hnone a ha).mpr (h a ha)⟩

/-! ### Runs -/

/-- Without its reader a session can go on as it would have with it. -/
theorem Unheard.run (h : Unheard b' b s' s) (as : List Action) :
    UnheardStep b' b (run? s' as) (run? s (as.filter fun a => !a.isBreak)) := by
  induction as generalizing s' s with
  | nil => exact .some h
  | cons a rest ih =>
      cases hbreak : a.isBreak with
      | true =>
          obtain ⟨log, emissions, rfl⟩ := id h.same
          rw [List.filter_cons_of_neg (by simp [hbreak])]
          -- the reader is gone already
          cases a with
          | breakOutput => exact ih h
          | _ => cases hbreak
      | false =>
          rw [List.filter_cons_of_pos (by simp [hbreak]), run?, run?]
          exact rel_bind (h.step hbreak) fun ht => ih ht

/-- The reader goes away. -/
theorem Unheard.begin (hheard : s.outputGone = false) :
    Unheard s s { s with outputGone := true } s :=
  ⟨⟨s.core.log, s.emissions, rfl⟩, hheard, [], [], [], losses_nil, by simp⟩

end ConsoleTap.Session
