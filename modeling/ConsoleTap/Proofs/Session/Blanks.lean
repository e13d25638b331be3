import ConsoleTap.Proofs.Print.Diagnostics
import ConsoleTap.Proofs.Session.Noise

/-!
# Noise before the dispatcher

A frame of noise becomes a job that prints nothing: no call is begun for it, no outcome
is looked for in it, and it is collected without a line as soon as it is the first.  It
can neither overtake a job nor hold one up, so two dispatchers, one with noise before it,
fetch the same properties in the same order and hand over the same lines.
-/

namespace ConsoleTap.Session

open ConsoleTap.Json ConsoleTap.Target ConsoleTap.Print
open ConsoleTap.Exchange (Sink IsEvent)

variable {w : Traffic} {s' s : State}

/-! ### Jobs that print nothing -/

/-- A frame that is no event is recognised as one that prints nothing. -/
theorem ofUnsolicited_of_not_event {frame : Value} (hframe : ¬ IsEvent frame) :
    Printout.ofFrame frame = .lines [] := by
  have hother : ∀ event, ¬ IsEventOf frame event := fun event hevent =>
    hframe ⟨event.method, by cases event <;> decide, hevent⟩
  exact (printout_of_no_event hother).2

theorem ofFrame_of_not_event {frame : Value} (hframe : ¬ IsEvent frame) (hops next : Nat) :
    Job.ofFrame hops next frame = (.lines [], []) := by
  rw [Job.ofFrame, ofUnsolicited_of_not_event hframe]

/-! ### Fetching -/

theorem Noisy.beginFetches (h : Noisy w s' s) (handles : List String) :
    Noisy w (s'.beginFetches handles) (s.beginFetches handles) := by
  obtain ⟨core, inbound, taken, jobs, rfl⟩ := h.same
  exact h.onCore (fun core => handles.foldl (fun core objectId =>
      core.attempt (.begin getProperties (some (propertiesParams objectId))
        (some s.options.fetchTimeout))) core)
    (fun h => rel_foldl handles (fun _ h => h.begin _ _ _) h)
    (fun core => Exchange.keepersPart_foldl handles
      (fun core _ => Exchange.keepersPart_attempt core rfl) core)

theorem Noisy.growCall? (h : Noisy w s' s) (n : Nat) :
    NoisyStep w (s'.growCall? n) (s.growCall? n) := by
  have hfetch : s'.jobs.findSome? (Job.fetch? n) = s.jobs.findSome? (Job.fetch? n) :=
    h.jobs.findSome? fun job hjob => hjob ▸ rfl
  rw [State.growCall?, State.growCall?, h.calls, hfetch]
  cases s.core.calls[n]?.bind Exchange.Call.outcome? with
  | none => exact .none
  | some outcome =>
      cases s.jobs.findSome? (Job.fetch? n) with
      | none => exact .none
      | some fetch =>
          have hgrown : ∀ {t' t : State} (growth : Growth), Noisy w t' t →
              Noisy w ({ t' with jobs := t'.jobs.map (Job.fill n growth.part) }.beginFetches
                  growth.handles)
                ({ t with jobs := t.jobs.map (Job.fill n growth.part) }.beginFetches
                  growth.handles) := fun growth ht =>
            (ht.withJobs (ht.jobs.map fun job hjob => by rw [hjob]; rfl)).beginFetches _
          cases hnotice : (fetch.grow s.core.calls.length outcome).notice with
          | none =>
              simp only [hnotice]
              exact .some (hgrown _ h)
          | some notice =>
              simp only [hnotice]
              exact .some (hgrown _ (h.note notice))

theorem Noisy.grow (h : Noisy w s' s) (n : Nat) :
    Noisy w (s'.attempt (.grow n)) (s.attempt (.grow n)) :=
  rel_getD (h.growCall? n) h

theorem Noisy.serve (sink : Sink) (hops : Nat) (h : Noisy w s' s) (n : Nat) :
    Noisy w (State.serve sink hops s' n) (State.serve sink hops s n) := by
  induction hops generalizing s' s n with
  | zero => exact h
  | succ hops ih =>
      have hsink : s'.sinkNow sink = s.sinkNow sink :=
        h.read (fun s => s.sinkNow sink) fun _ _ _ _ _ _ => rfl
      have hturn := h.callerTurn (s.sinkNow sink) n
      have hgrown := hturn.grow n
      rw [State.serve, State.serve, hsink]
      simp only [hturn.calls, hgrown.calls]
      exact rel_foldl _ (fun n h => ih h n) hgrown

theorem Noisy.serveJob (h : Noisy w s' s) (sink : Sink) (job : Job) :
    Noisy w (s'.serveJob sink job) (s.serveJob sink job) := by
  rw [State.serveJob, State.serveJob, h.options]
  exact rel_foldl job.calls (fun n h => h.serve sink _ n) h

theorem Noisy.serveAnswered (h : Noisy w s' s) (sink : Sink) :
    Noisy w (s'.serveAnswered sink) (s.serveAnswered sink) := by
  have hanswered : s'.core.answered = s.core.answered :=
    h.read (fun s => s.core.answered) fun _ _ _ _ _ _ => rfl
  rw [State.serveAnswered, State.serveAnswered, hanswered]
  refine rel_foldl _ (fun {s' s} n h => ?_) h
  have hjob : s'.jobs.find? (fun job => (job.fetch? n).isSome) =
      s.jobs.find? (fun job => (job.fetch? n).isSome) := h.jobs.find? fun job hjob => hjob ▸ rfl
  rw [hjob]
  cases s.jobs.find? (fun job => (job.fetch? n).isSome) with
  | none => exact h
  | some job => exact h.serveJob sink job

/-! ### Taking -/

/-- The dispatchers may have taken more, as long as what is left is related. -/
theorem Noisy.withTaken (h : Noisy w s' s) {taken' taken : Nat} {noisyQueue queue : List Value}
    (hqueue' : s'.core.forwarded.drop taken' = noisyQueue)
    (hqueue : s.core.forwarded.drop taken = queue)
    (hlittered : Littered (¬ IsEvent ·) noisyQueue queue)
    (htaken' : taken' ≤ s'.core.forwarded.length) (htaken : taken ≤ s.core.forwarded.length) :
    Noisy { w with noisyQueue := noisyQueue, queue := queue } { s' with taken := taken' }
      { s with taken := taken } := by
  obtain ⟨⟨core, inbound, _, jobs, rfl⟩, hcore, hinbound, hjobs, hnone, -, -, hkeeper, hhung,
    hexpect⟩ := h
  subst hqueue' hqueue
  exact ⟨⟨_, _, _, _, rfl⟩, ⟨hcore.same, hcore.mail, hlittered, htaken', htaken⟩, hinbound, hjobs,
    hnone, rfl, rfl, hkeeper, hhung, hexpect⟩

theorem drop_succ_of_drop {α : Type} {l rest : List α} {i : Nat} {x : α} (h : l.drop i = x :: rest) :
    l.drop (i + 1) = rest ∧ i + 1 ≤ l.length := by
  constructor
  · rw [← List.tail_drop, h, List.tail_cons]
  · have hlength := congrArg List.length h
    rw [List.length_drop, List.length_cons] at hlength
    omega

/-- A frame that both dispatchers take begins the same job. -/
theorem Noisy.takeFrame (h : Noisy w s' s) {frame : Value} {noisyRest rest : List Value}
    (hqueue' : w.noisyQueue = frame :: noisyRest) (hqueue : w.queue = frame :: rest)
    (hrest : Littered (¬ IsEvent ·) noisyRest rest) :
    Noisy { w with noisyQueue := noisyRest, queue := rest } (s'.takeFrame frame)
      (s.takeFrame frame) := by
  obtain ⟨hdrop', hle'⟩ := drop_succ_of_drop (h.noisyQueue.trans hqueue')
  obtain ⟨hdrop, hle⟩ := drop_succ_of_drop (h.queue.trans hqueue)
  have htaken := rel_foldl (frameNotices frame) (fun n h => h.note n)
    (h.withTaken hdrop' hdrop hrest hle' hle)
  rw [foldl_note, foldl_note] at htaken
  rw [State.takeFrame, State.takeFrame, h.options, h.calls, foldl_note, foldl_note]
  exact (htaken.withJobs (htaken.jobs.keep_last _)).beginFetches _

theorem takeFrame_of_not_event {frame : Value} (hframe : ¬ IsEvent frame) :
    s.takeFrame frame =
      { s with
        core := extended s.core (frameNotices frame) []
        taken := s.taken + 1
        jobs := s.jobs ++ [.lines []] } := by
  rw [State.takeFrame, ofFrame_of_not_event hframe, foldl_note]
  rfl

/-- Noise begins a job that prints nothing. -/
theorem Noisy.takeNoise (h : Noisy w s' s) {frame : Value} {noisyRest : List Value}
    (hqueue' : w.noisyQueue = frame :: noisyRest) (hframe : ¬ IsEvent frame)
    (hrest : Littered (¬ IsEvent ·) noisyRest w.queue) :
    Noisy { w with noisyQueue := noisyRest } (s'.takeFrame frame) s := by
  obtain ⟨hdrop', hle'⟩ := drop_succ_of_drop (h.noisyQueue.trans hqueue')
  have hlogged : extended s'.core (frameNotices frame) [] =
      { s'.core with log := s'.core.log ++ frameNotices frame } := by
    rw [extended, List.append_nil]
  have hnoted : Exchange.Noisy w.mail s'.taken s.taken (extended s'.core (frameNotices frame) [])
      s.core := by
    rw [hlogged]
    exact h.core.relogged _
  rw [takeFrame_of_not_event hframe]
  have htaken := (h.withCore hnoted rfl rfl).withTaken hdrop' h.queue hrest hle' h.core.taken
  exact htaken.withJobs (htaken.jobs.drop_last rfl)

theorem takeTurn_of_cons (sink : Sink) (hexpecting : s.expecting = true) {frame : Value}
    {rest : List Value} (hqueue : s.queue = frame :: rest) :
    s.takeTurn sink = (s.takeFrame frame).serveJob sink
      (Job.ofFrame s.options.maxDepth s.core.calls.length frame).1 := by
  have htake : s.attempt .take = s.takeFrame frame := by
    rw [State.attempt, step?, hexpecting, hqueue]
    rfl
  have hjobs : (s.takeFrame frame).jobs =
      s.jobs ++ [(Job.ofFrame s.options.maxDepth s.core.calls.length frame).1] := by
    rw [State.takeFrame, foldl_note]
    rfl
  have htaken : s.taken < (s.takeFrame frame).taken := by
    rw [State.takeFrame, foldl_note]
    exact Nat.lt_succ_self s.taken
  rw [State.takeTurn, htake, hjobs, List.getLast?_concat]
  exact if_pos htaken

theorem takeTurn_of_not_expecting (sink : Sink) (hexpecting : s.expecting = false) :
    s.takeTurn sink = s := by
  have htake : s.attempt .take = s := by
    rw [State.attempt, step?, hexpecting]
    rfl
  rw [State.takeTurn, htake]
  split
  · exact if_neg (Nat.lt_irrefl _)
  · rfl

/-- The dispatchers take what waits for them, along their queues. -/
theorem Noisy.iterate_take (sink : Sink) {noisyQueue queue : List Value}
    (hlittered : Littered (¬ IsEvent ·) noisyQueue queue) {w : Traffic} {s' s : State}
    (h : Noisy w s' s) (hqueue' : w.noisyQueue = noisyQueue) (hqueue : w.queue = queue)
    (hexpecting : w.expecting = true) :
    Noisy { w with noisyQueue := [], queue := [] }
      ((State.takeTurn sink)^[noisyQueue.length] s') ((State.takeTurn sink)^[queue.length] s) := by
  obtain ⟨marks, hstrewn⟩ := hlittered
  induction hstrewn generalizing w s' s with
  | nil =>
      obtain ⟨mail, inbound, _, _, keeper, hungUp, expecting⟩ := w
      obtain rfl := hqueue'
      obtain rfl := hqueue
      exact h
  | keep frame hrest ih =>
      have hexpects := h.expecting.trans hexpecting
      rw [List.length_cons, List.length_cons, Function.iterate_succ_apply _ _ s',
        Function.iterate_succ_apply _ _ s, takeTurn_of_cons sink hexpects (h.queue.trans hqueue),
        takeTurn_of_cons sink (h.expecting_eq.trans hexpects) (h.noisyQueue.trans hqueue'), h.options, h.calls]
      have htaken := (h.takeFrame hqueue' hqueue ⟨_, hrest⟩).serveJob sink
        (Job.ofFrame s.options.maxDepth s.core.calls.length frame).1
      exact (ih htaken rfl rfl hexpecting :)
  | drop frame hframe hrest ih =>
      have hexpects := h.expecting.trans hexpecting
      rw [List.length_cons, Function.iterate_succ_apply _ _ s',
        takeTurn_of_cons sink (h.expecting_eq.trans hexpects) (h.noisyQueue.trans hqueue'), ofFrame_of_not_event hframe]
      have htaken := h.takeNoise hqueue' hframe ⟨_, hqueue ▸ hrest⟩
      exact (ih htaken rfl hqueue hexpecting :)

/-- After the dispatchers have taken what waits for them nothing is left, as long as they expect
    frames. -/
theorem Noisy.takeTurns (h : Noisy w s' s) (sink : Sink) :
    ∃ noisyQueue queue, Noisy { w with noisyQueue := noisyQueue, queue := queue }
        (s'.queue.foldl (fun s _ => s.takeTurn sink) s')
        (s.queue.foldl (fun s _ => s.takeTurn sink) s) ∧
      (w.expecting = true → noisyQueue = [] ∧ queue = []) := by
  rw [List.foldl_const, List.foldl_const, h.noisyQueue, h.queue]
  by_cases hexpecting : w.expecting = true
  · exact ⟨[], [], Noisy.iterate_take sink h.littered h rfl rfl hexpecting, fun _ => ⟨rfl, rfl⟩⟩
  · have hexpects : s.expecting = false := h.expecting.trans (Bool.eq_false_iff.mpr hexpecting)
    rw [Function.iterate_fixed (takeTurn_of_not_expecting sink hexpects),
      Function.iterate_fixed
        (takeTurn_of_not_expecting sink (h.expecting_eq.trans hexpects))]
    exact ⟨w.noisyQueue, w.queue, h, fun hw => absurd hw hexpecting⟩

/-! ### Handing over -/

/-- The state after some lines were handed over. -/
def State.handedOver (s : State) (lines : List String) : State :=
  { s with
    core := { s.core with
      log := s.core.log ++ lines.flatMap fun _ => if s.outputGone then [.lineLost] else [] }
    emissions := s.emissions ++ lines.map fun line => ⟨line, !s.outputGone⟩ }

theorem foldl_emit (lines : List String) (s : State) :
    lines.foldl (fun s _ => s.attempt .emit) { s with emitting := lines } =
      { s.handedOver lines with emitting := [] } := by
  induction lines generalizing s with
  | nil =>
      rw [State.handedOver, List.flatMap_nil, List.append_nil, List.map_nil, List.append_nil]
      rfl
  | cons line rest ih =>
      have hemit : State.attempt { s with emitting := line :: rest } .emit =
          { s.handedOver [line] with emitting := rest } := by
        rw [State.attempt, step?, State.emit?]
        cases hgone : s.outputGone with
        | true => simp [State.handedOver, hgone, State.note, Exchange.State.note]
        | false => simp [State.handedOver, hgone]
      rw [List.foldl_cons, hemit, ih]
      simp [State.handedOver]

theorem emitTurn_of_lines {job : Job} {rest : List Job} {lines : List String}
    (hemitting : s.emitting = []) (hjobs : s.jobs = job :: rest) (hlines : job.lines? = some lines) :
    s.emitTurn = { s with jobs := rest }.handedOver lines := by
  have hcollect : s.attempt .collect = { s with jobs := rest, emitting := lines } := by
    rw [State.attempt, step?, State.collect?, hemitting, hjobs]
    simp only [hlines]
    rfl
  have hhanded := foldl_emit lines { s with jobs := rest }
  rw [State.emitTurn, hcollect]
  refine hhanded.trans ?_
  simp only [State.handedOver, hemitting]

theorem emitTurn_of_unfinished {job : Job} {rest : List Job} (hemitting : s.emitting = [])
    (hjobs : s.jobs = job :: rest) (hlines : job.lines? = none) : s.emitTurn = s := by
  have hcollect : s.attempt .collect = s := by
    rw [State.attempt, step?, State.collect?, hemitting, hjobs]
    simp only [hlines]
    rfl
  rw [State.emitTurn, hcollect, hemitting]
  rfl

theorem Noisy.handedOver (h : Noisy w s' s) (lines : List String) :
    Noisy w (s'.handedOver lines) (s.handedOver lines) := by
  obtain ⟨core, inbound, taken, jobs, rfl⟩ := h.same
  have hemitted := h.map
    (fun t => { t with emissions := s.emissions ++ lines.map fun line => ⟨line, !s.outputGone⟩ })
    (fun _ _ _ _ => rfl) rfl rfl rfl rfl
  exact hemitted.onCore
    (fun core => { core with
      log := core.log ++ lines.flatMap fun _ => if s.outputGone then [.lineLost] else [] })
    (fun h => h.map
      (fun core => { core with
        log := core.log ++ lines.flatMap fun _ => if s.outputGone then [.lineLost] else [] })
      (fun _ _ _ => ⟨_, rfl⟩) rfl rfl)
    (fun _ => rfl)

/-- A job without lines is collected and leaves nothing but its place. -/
theorem emitTurn_of_blank {rest : List Job} (hemitting : s.emitting = [])
    (hjobs : s.jobs = .lines [] :: rest) : s.emitTurn = { s with jobs := rest } := by
  rw [emitTurn_of_lines hemitting hjobs rfl, State.handedOver, List.flatMap_nil, List.append_nil,
    List.map_nil, List.append_nil]

/-- The dispatchers hand over what is finished, along their jobs. -/
theorem Noisy.iterate_emit {jobs' jobs : List Job} (hlittered : Littered (· = .lines []) jobs' jobs)
    {s' s : State} (h : Noisy w s' s) (hjobs' : s'.jobs = jobs') (hjobs : s.jobs = jobs) :
    Noisy w (State.emitTurn^[jobs'.length] s') (State.emitTurn^[jobs.length] s) ∧
      ((State.emitTurn^[jobs'.length] s').jobs = [] ↔ (State.emitTurn^[jobs.length] s).jobs = []) := by
  obtain ⟨marks, hstrewn⟩ := hlittered
  induction hstrewn generalizing s' s with
  | nil => exact ⟨h, iff_of_true hjobs' hjobs⟩
  | keep job hrest ih =>
      cases hlines : job.lines? with
      | none =>
          rw [Function.iterate_fixed (emitTurn_of_unfinished h.noisy_emitting hjobs' hlines),
            Function.iterate_fixed (emitTurn_of_unfinished h.emitting hjobs hlines), hjobs', hjobs]
          exact ⟨h, iff_of_false (List.cons_ne_nil _ _) (List.cons_ne_nil _ _)⟩
      | some lines =>
          rw [List.length_cons, List.length_cons, Function.iterate_succ_apply _ _ s',
            Function.iterate_succ_apply _ _ s, emitTurn_of_lines h.noisy_emitting hjobs' hlines,
            emitTurn_of_lines h.emitting hjobs hlines]
          exact ih ((h.withJobs ⟨_, hrest⟩).handedOver lines) rfl rfl
  | drop job hjob hrest ih =>
      subst hjob
      rw [List.length_cons, Function.iterate_succ_apply _ _ s',
        emitTurn_of_blank h.noisy_emitting hjobs']
      have hleft : Noisy w _ { s with jobs := s.jobs } := h.withJobs ⟨_, hjobs ▸ hrest⟩
      exact ih hleft rfl hjobs

theorem Noisy.emitTurns (h : Noisy w s' s) :
    Noisy w (s'.jobs.foldl (fun s _ => s.emitTurn) s') (s.jobs.foldl (fun s _ => s.emitTurn) s) ∧
      ((s'.jobs.foldl (fun s _ => s.emitTurn) s').jobs = [] ↔
        (s.jobs.foldl (fun s _ => s.emitTurn) s).jobs = []) := by
  rw [List.foldl_const, List.foldl_const]
  exact Noisy.iterate_emit h.jobs h rfl rfl

/-! ### A turn of the dispatcher -/

/-- The dispatchers learn together that no more frames will come: noise that waited would keep one
    of them from it. -/
theorem Noisy.expectNone (h : Noisy w s' s)
    (hempty : w.expecting = true → w.noisyQueue = [] ∧ w.queue = []) :
    ∃ expecting, Noisy { w with expecting := expecting } (s'.attempt .expectNone)
      (s.attempt .expectNone) := by
  have hguard : (s'.expecting && s'.queue.isEmpty && s'.core.keeper == .stopped) =
      (s.expecting && s.queue.isEmpty && s.core.keeper == .stopped) := by
    rw [h.expecting_eq, h.core.keeper, h.noisyQueue, h.queue]
    cases hexpects : s.expecting with
    | false => rfl
    | true =>
        obtain ⟨hnoisy, hclean⟩ := hempty (h.expecting.symm.trans hexpects)
        rw [hnoisy, hclean]
  rw [State.attempt, State.attempt, step?, step?, hguard]
  split
  · exact ⟨false, h.withExpecting false⟩
  · exact ⟨w.expecting, h⟩

theorem jobs_expectNone (s : State) : (s.attempt .expectNone).jobs = s.jobs := by
  rw [State.attempt, step?]
  split <;> rfl

theorem Noisy.ceaseDispatching (h : Noisy w s' s) (hjobs : s'.jobs = [] ↔ s.jobs = []) :
    Noisy w (s'.attempt .ceaseDispatching) (s.attempt .ceaseDispatching) := by
  have hempty : s'.jobs.isEmpty = s.jobs.isEmpty := by
    rw [Bool.eq_iff_iff, List.isEmpty_iff, List.isEmpty_iff, hjobs]
  refine rel_getD ?_ h
  have hguard : (s'.dispatching && !s'.expecting && s'.jobs.isEmpty && s'.emitting.isEmpty) =
      (s.dispatching && !s.expecting && s.jobs.isEmpty && s.emitting.isEmpty) := by
    rw [hempty]
    obtain ⟨core, inbound, taken, jobs, rfl⟩ := h.same
    rfl
  exact rel_guard (by rw [hguard]) (h.map (fun s => { s with dispatching := false })
    (fun _ _ _ _ => rfl) rfl rfl rfl rfl)

theorem Noisy.dispatcherTurn (h : Noisy w s' s) (sink : Sink) :
    ∃ noisyQueue queue expecting,
      Noisy { w with noisyQueue := noisyQueue, queue := queue, expecting := expecting }
        (s'.dispatcherTurn sink) (s.dispatcherTurn sink) := by
  obtain ⟨noisyQueue, queue, htaken, hempty⟩ := (h.serveAnswered sink).takeTurns sink
  obtain ⟨hemitted, hjobs⟩ := htaken.emitTurns
  obtain ⟨expecting, hexpecting⟩ := hemitted.expectNone hempty
  refine ⟨noisyQueue, queue, expecting, hexpecting.ceaseDispatching ?_⟩
  rw [jobs_expectNone, jobs_expectNone]
  exact hjobs

end ConsoleTap.Session
