import ConsoleTap.Proofs.Exchange.Resolution
import ConsoleTap.Session.Step

/-!
# The moves of a session

As with the exchange, the cases of the step function are listed once, each with its
guard and the state that it leads to.  A session changes its exchange only by the
exchange's own actions and by notices of its own.
-/

namespace ConsoleTap.Session

open ConsoleTap.Json

/-! ### Calls of the dispatcher -/

/-- A call that fetches the properties of an object, when it is begun. -/
def fetchCall (timeout : Nat) (objectId : String) : Exchange.Call where
  method := Target.getProperties
  params := some (Target.propertiesParams objectId)
  limit := some timeout

/-- The exchange after some notices were logged and some fetches begun. -/
def extended (core : Exchange.State) (notices : List Notice) (calls : List Exchange.Call) :
    Exchange.State :=
  { core with calls := core.calls ++ calls, log := core.log ++ notices }

theorem foldl_begin (timeout : Nat) (handles : List String) (core : Exchange.State) :
    handles.foldl (fun core objectId =>
        core.attempt (.begin Target.getProperties (some (Target.propertiesParams objectId))
          (some timeout))) core =
      extended core [] (handles.map (fetchCall timeout)) := by
  induction handles generalizing core with
  | nil => simp [extended]
  | cons objectId handles ih =>
      rw [List.foldl_cons, ih]
      simp [extended, Exchange.State.attempt, Exchange.step?, fetchCall]

theorem beginFetches_eq (s : State) (handles : List String) :
    s.beginFetches handles =
      { s with core := extended s.core [] (handles.map (fetchCall s.options.fetchTimeout)) } := by
  rw [State.beginFetches, foldl_begin]

theorem foldl_note (notices : List Notice) (s : State) :
    notices.foldl State.note s = { s with core := extended s.core notices [] } := by
  induction notices generalizing s with
  | nil => simp [extended]
  | cons n notices ih =>
      rw [List.foldl_cons, ih]
      simp [State.note, Exchange.State.note, extended]

/-! ### The moves -/

/-- What an action can do in a session: the guard of each case, and where it leads. -/
inductive Move (s : State) : Action → State → Prop where
  | arrive (x : Arrival) (hhungUp : s.hungUp = false) :
      Move s (.arrive x) { s with inbound := s.inbound ++ [x], hungUp := decide (x = .hangUp) }
  | arriveLate (x : Arrival) (hhungUp : s.hungUp = true) : Move s (.arrive x) s
  | close : Move s .close { s with handles := s.handles ++ [.asked] }
  | breakOutput : Move s .breakOutput { s with outputGone := true }
  | tick (ms : Nat) : Move s (.tick ms) { s with core := { s.core with now := s.core.now + ms } }
  | core {a : Exchange.Action} {core : Exchange.State} (hinner : a.isInner = true)
      (hstep : Exchange.step? s.core a = some core) : Move s (.core a) { s with core := core }
  | receive {text : String} {ms : List (String × Value)} {rest : List Arrival}
      {core : Exchange.State} (hreceiving : s.receiving = true)
      (hinbound : s.inbound = .frame text :: rest) (hread : Json.read? text = some (.object ms))
      (hroute : Exchange.step? s.core (.route (.object ms)) = some core) :
      Move s .receive { s with inbound := rest, core := core }
  | receiveMalformed {text : String} {rest : List Arrival} (n : Notice)
      (hreceiving : s.receiving = true) (hinbound : s.inbound = .frame text :: rest)
      (hread : ∀ ms, Json.read? text ≠ some (.object ms)) :
      Move s .receive { s with inbound := rest, core := s.core.note n }
  | receiveEnd {x : Arrival} {rest : List Arrival} (n : Notice) (hreceiving : s.receiving = true)
      (hinbound : s.inbound = x :: rest) (hx : ∀ text, x ≠ .frame text) :
      Move s .receive { s with inbound := rest, core := s.core.note n, receiving := false }
  | ceaseReceiving (hreceiving : s.receiving = true) (hclosed : s.core.closed = true) :
      Move s .ceaseReceiving { s with receiving := false }
  | take {frame : Value} {rest : List Value} {job : Job} {handles : List String}
      (hexpecting : s.expecting = true) (hqueue : s.queue = frame :: rest)
      (hjob : Job.ofFrame s.options.maxDepth s.core.calls.length frame = (job, handles)) :
      Move s .take
        { s with
          core := extended s.core (Print.frameNotices frame)
            (handles.map (fetchCall s.options.fetchTimeout))
          taken := s.taken + 1
          jobs := s.jobs ++ [job] }
  | expectNone (hexpecting : s.expecting = true) (hqueue : s.queue = [])
      (hkeeper : s.core.keeper = .stopped) : Move s .expectNone { s with expecting := false }
  | grow {n : Nat} {outcome : Exchange.Outcome} {fetch : Fetch} {growth : Growth}
      (houtcome : s.core.outcome? n = some outcome)
      (hfetch : s.jobs.findSome? (Job.fetch? n) = some fetch)
      (hgrowth : fetch.grow s.core.calls.length outcome = growth) :
      Move s (.grow n)
        { s with
          core := extended s.core growth.notice.toList
            (growth.handles.map (fetchCall s.options.fetchTimeout))
          jobs := s.jobs.map (Job.fill n growth.part) }
  | collect {job : Job} {rest : List Job} {ls : List String} (hemitting : s.emitting = [])
      (hjobs : s.jobs = job :: rest) (hlines : job.lines? = some ls) :
      Move s .collect { s with jobs := rest, emitting := ls }
  | emit {line : String} {rest : List String} (hemitting : s.emitting = line :: rest) :
      Move s .emit
        { s with
          core := extended s.core (if s.outputGone then [.lineLost] else []) []
          emitting := rest
          emissions := s.emissions ++ [⟨line, !s.outputGone⟩] }
  | ceaseDispatching (hdispatching : s.dispatching = true) (hexpecting : s.expecting = false)
      (hjobs : s.jobs = []) (hemitting : s.emitting = []) :
      Move s .ceaseDispatching { s with dispatching := false }
  | observe {how : Ending} {core : Exchange.State} (hrunner : s.runner = .watching)
      (hend : s.canObserve how = true)
      (hask : Exchange.step? (s.core.note (.ending how)) .ask = some core) :
      Move s (.observe how)
        { s with core := core, runner := .shutting how s.core.closers.length }
  | join {how : Ending} {closer : Nat} (hrunner : s.runner = .shutting how closer)
      (hdone : s.closerDone closer = true) : Move s .join { s with runner := .joining how }
  | finish {how : Ending} (hrunner : s.runner = .joining how) (hfinished : s.allFinished = true) :
      Move s .finish { s with runner := .done how }
  | look {n : Nat} {closeFault : Option TransportFault} (hhandle : s.handles[n]? = some .asked) :
      Move s (.handle n closeFault)
        { s with handles := s.handles.set n (if s.core.closed then .done else .admitted) }
  | shut {n : Nat} {closeFault : Option TransportFault} {core : Exchange.State}
      (hhandle : s.handles[n]? = some .admitted)
      (hask : Exchange.step? (s.core.note .closing) .ask = some core) :
      Move s (.handle n closeFault)
        { s with core := core, handles := s.handles.set n (.shutting s.core.closers.length) }
  | closeChannel {n closer : Nat} {closeFault : Option TransportFault}
      (hhandle : s.handles[n]? = some (.shutting closer)) (hdone : s.closerDone closer = true) :
      Move s (.handle n closeFault)
        { s with
          core := extended s.core (closeFault.toList.map Notice.closeFailed) []
          handles := s.handles.set n .done
          channelCloses := s.channelCloses + 1 }

theorem move_of_receive {s : State} {x : Arrival} {rest : List Arrival}
    (hreceiving : s.receiving = true) (hinbound : s.inbound = x :: rest) :
    Move s .receive ({ s with inbound := rest }.receiveArrival x) := by
  cases x with
  | frame text =>
      simp only [State.receiveArrival, State.receiveText]
      split
      · rename_i ms hread
        exact .receive hreceiving hinbound hread rfl
      · rename_i hread
        exact .receiveMalformed _ hreceiving hinbound hread
  | failure cause =>
      cases cause <;> exact .receiveEnd _ hreceiving hinbound (by simp)
  | hangUp => exact .receiveEnd _ hreceiving hinbound (by simp)

theorem move_of_take {s : State} {frame : Value} {rest : List Value}
    (hexpecting : s.expecting = true) (hqueue : s.queue = frame :: rest) :
    Move s .take (s.takeFrame frame) := by
  rcases hjob : Job.ofFrame s.options.maxDepth s.core.calls.length frame with ⟨job, handles⟩
  have hmove := Move.take hexpecting hqueue hjob
  simpa [State.takeFrame, hjob, foldl_note, beginFetches_eq, extended] using hmove

theorem move_of_grow {s t : State} {n : Nat} (h : s.growCall? n = some t) :
    Move s (.grow n) t := by
  rw [State.growCall?] at h
  split at h
  · rename_i outcome fetch houtcome hfetch
    have hmove := Move.grow houtcome hfetch rfl
    obtain rfl := Option.some.inj h
    cases hnotice : (fetch.grow s.core.calls.length outcome).notice <;>
      simpa [hnotice, beginFetches_eq, extended, State.note, Exchange.State.note] using hmove
  · cases h

theorem move_of_handle {s t : State} {n : Nat} {closeFault : Option TransportFault}
    (h : s.handleStep? n closeFault = some t) : Move s (.handle n closeFault) t := by
  rw [State.handleStep?] at h
  split at h
  · rename_i hhandle
    obtain rfl := Option.some.inj h
    exact .look hhandle
  · rename_i hhandle
    obtain rfl := Option.some.inj h
    exact .shut hhandle rfl
  · rename_i closer hhandle
    split at h
    · rename_i hdone
      have hmove : Move s (.handle n closeFault) _ := .closeChannel hhandle hdone
      obtain rfl := Option.some.inj h
      cases closeFault <;> simpa [extended, State.note, Exchange.State.note] using hmove
    · cases h
  · cases h
  · cases h

/-- Every step of a session is one of the moves. -/
theorem move_of_step {s t : State} {a : Action} (h : step? s a = some t) : Move s a t := by
  cases a with
  | arrive x =>
      obtain rfl := Option.some.inj h
      cases hhungUp : s.hungUp with
      | true => exact .arriveLate x hhungUp
      | false => exact .arrive x hhungUp
  | close =>
      obtain rfl := Option.some.inj h
      exact .close
  | breakOutput =>
      obtain rfl := Option.some.inj h
      exact .breakOutput
  | tick ms =>
      obtain rfl := Option.some.inj h
      exact .tick ms
  | core a =>
      simp only [step?] at h
      split at h
      · rename_i hinner
        obtain ⟨core, hcore, rfl⟩ := Option.map_eq_some_iff.mp h
        exact .core hinner hcore
      · cases h
  | receive =>
      simp only [step?] at h
      split at h
      · rename_i hreceiving hinbound
        obtain rfl := Option.some.inj h
        exact move_of_receive hreceiving hinbound
      · cases h
  | ceaseReceiving =>
      simp only [step?] at h
      split at h
      · rename_i hguard
        obtain ⟨hreceiving, hclosed⟩ := Bool.and_eq_true_iff.mp hguard
        obtain rfl := Option.some.inj h
        exact .ceaseReceiving hreceiving hclosed
      · cases h
  | take =>
      simp only [step?] at h
      split at h
      · rename_i hexpecting hqueue
        obtain rfl := Option.some.inj h
        exact move_of_take hexpecting hqueue
      · cases h
  | expectNone =>
      simp only [step?] at h
      split at h
      · rename_i hguard
        simp only [Bool.and_eq_true, List.isEmpty_iff, beq_iff_eq] at hguard
        obtain rfl := Option.some.inj h
        exact .expectNone hguard.1.1 hguard.1.2 hguard.2
      · cases h
  | grow n => exact move_of_grow h
  | collect =>
      simp only [step?, State.collect?] at h
      split at h
      · rename_i hemitting hjobs
        obtain ⟨ls, hlines, rfl⟩ := Option.map_eq_some_iff.mp h
        exact .collect hemitting hjobs hlines
      · cases h
  | emit =>
      simp only [step?, State.emit?] at h
      split at h
      · cases h
      · rename_i hemitting
        have hmove := Move.emit hemitting
        obtain rfl := Option.some.inj h
        cases hgone : s.outputGone <;>
          simpa [hgone, extended, State.note, Exchange.State.note] using hmove
  | ceaseDispatching =>
      simp only [step?] at h
      split at h
      · rename_i hguard
        simp only [Bool.and_eq_true, Bool.not_eq_true', List.isEmpty_iff] at hguard
        obtain rfl := Option.some.inj h
        exact .ceaseDispatching hguard.1.1.1 hguard.1.1.2 hguard.1.2 hguard.2
      · cases h
  | observe how =>
      simp only [step?] at h
      split at h
      · rename_i hguard
        obtain rfl := Option.some.inj h
        exact .observe hguard.1 hguard.2 rfl
      · cases h
  | join =>
      simp only [step?] at h
      split at h
      · rename_i hrunner
        split at h
        · rename_i hdone
          obtain rfl := Option.some.inj h
          exact .join hrunner hdone
        · cases h
      · cases h
  | finish =>
      simp only [step?] at h
      split at h
      · rename_i hrunner
        split at h
        · rename_i hfinished
          obtain rfl := Option.some.inj h
          exact .finish hrunner hfinished
        · cases h
      · cases h
  | handle n closeFault => exact move_of_handle h

theorem run?_eq_follow (s : State) (as : List Action) : run? s as = Run.follow step? s as := by
  induction as generalizing s with
  | nil => rfl
  | cons a rest ih => simp only [run?, Run.follow, ih]

theorem run?_append (s : State) (as bs : List Action) :
    run? s (as ++ bs) = (run? s as).bind fun t => run? t bs := by
  simp only [run?_eq_follow, Run.follow_append]

end ConsoleTap.Session
