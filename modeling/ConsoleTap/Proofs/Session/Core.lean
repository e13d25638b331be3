import ConsoleTap.Proofs.Exchange.Frames
import ConsoleTap.Proofs.Session.Move
import ConsoleTap.Proofs.Session.Opening

/-!
# A session's run of its exchange

Whatever the parties of a session do, its exchange performs a run of its own, but for
the notices that the session writes into the log.  `coreActions` are the actions of
the exchange in a step of the session; along a run they make the run of the exchange,
so whatever is known about runs of the exchange is known about sessions.
-/

namespace ConsoleTap.Session

open ConsoleTap.Json

variable {s t : State} {a : Action} {as : List Action} {options : Options}

/-- Beginning a fetch, as an action of the exchange. -/
def fetchAction (timeout : Nat) (objectId : String) : Exchange.Action :=
  .begin Target.getProperties (some (Target.propertiesParams objectId)) (some timeout)

/-- The frame that the receiver hands over in a step. -/
def routedFrame (s : State) : Action → List Value
  | .receive =>
      match s.receiving, s.inbound with
      | true, .frame text :: _ =>
          match Json.read? text with
          | some (.object ms) => [.object ms]
          | _ => []
      | _, _ => []
  | _ => []

/-- The handles of the fetches that the dispatcher begins in a step. -/
def fetchedHandles (s : State) : Action → List String
  | .take =>
      match s.queue with
      | frame :: _ => (Job.ofFrame s.options.maxDepth s.core.calls.length frame).2
      | [] => []
  | .grow n =>
      match s.core.outcome? n, s.jobs.findSome? (Job.fetch? n) with
      | some outcome, some fetch => (fetch.grow s.core.calls.length outcome).handles
      | _, _ => []
  | _ => []

/-- The actions of the exchange in a step of the session. -/
def coreActions (s : State) (a : Action) : List Exchange.Action :=
  match a with
  | .tick ms => [.tick ms]
  | .core a => [a]
  | .receive => (routedFrame s .receive).map .route
  | .take => (fetchedHandles s .take).map (fetchAction s.options.fetchTimeout)
  | .grow n => (fetchedHandles s (.grow n)).map (fetchAction s.options.fetchTimeout)
  | .observe _ => [.ask]
  | .handle n _ => if s.handles[n]? = some .admitted then [.ask] else []
  | _ => []

theorem run_fetchActions (core : Exchange.State) (timeout : Nat) (handles : List String) :
    Exchange.run? core (handles.map (fetchAction timeout)) =
      some (extended core [] (handles.map (fetchCall timeout))) := by
  induction handles generalizing core with
  | nil => simp [Exchange.run?, extended]
  | cons objectId handles ih =>
      simp only [List.map_cons, Exchange.run?, fetchAction, Exchange.step?, Option.bind_some]
      rw [ih]
      simp [extended, fetchCall]

/-- A step of the session is some steps of its exchange, but for the log. -/
theorem Move.core_run (hmove : Move s a t) :
    ∃ u, Exchange.run? s.core (coreActions s a) = some u ∧ u.muted = t.core.muted := by
  cases hmove with
  | tick ms => exact ⟨_, rfl, rfl⟩
  | core hinner hstep =>
      rename_i a core
      exact ⟨core, by simp [coreActions, Exchange.run?, hstep], rfl⟩
  | receive hreceiving hinbound hread hroute =>
      rename_i text ms rest core
      refine ⟨core, ?_, rfl⟩
      simp [coreActions, routedFrame, hreceiving, hinbound, hread, Exchange.run?, hroute]
  | receiveMalformed n hreceiving hinbound hread =>
      rename_i text rest
      refine ⟨s.core, ?_, rfl⟩
      simp only [coreActions, routedFrame, hreceiving, hinbound]
      rfl
  | receiveEnd n hreceiving hinbound hx =>
      rename_i x rest
      refine ⟨s.core, ?_, rfl⟩
      cases x with
      | frame text => exact absurd rfl (hx text)
      | failure cause => simp [coreActions, routedFrame, hreceiving, hinbound, Exchange.run?]
      | hangUp => simp [coreActions, routedFrame, hreceiving, hinbound, Exchange.run?]
  | take hexpecting hqueue hjob =>
      refine ⟨extended s.core [] _, ?_, rfl⟩
      simp only [coreActions, fetchedHandles, hqueue, hjob]
      exact run_fetchActions _ _ _
  | grow houtcome hfetch hgrowth =>
      refine ⟨extended s.core [] _, ?_, rfl⟩
      simp only [coreActions, fetchedHandles, houtcome, hfetch, hgrowth]
      exact run_fetchActions _ _ _
  | observe hrunner hend hask =>
      obtain rfl := Option.some.inj hask
      exact ⟨_, rfl, rfl⟩
  | look hhandle => exact ⟨s.core, by simp [coreActions, hhandle, Exchange.run?], rfl⟩
  | shut hhandle hask =>
      obtain rfl := Option.some.inj hask
      refine ⟨{ s.core with closers := s.core.closers ++ [.asked] }, ?_, rfl⟩
      rw [coreActions, if_pos hhandle]
      rfl
  | closeChannel hhandle hdone =>
      refine ⟨s.core, by simp [coreActions, hhandle, Exchange.run?], ?_⟩
      simp [Exchange.State.muted, extended]
  | emit hemitting =>
      refine ⟨s.core, rfl, ?_⟩
      simp [Exchange.State.muted, extended]
  | _ => exact ⟨s.core, rfl, rfl⟩

/-- The parties of the exchange act only by actions of their own. -/
theorem eq_core_of_mem {b : Exchange.Action} (hb : b ∈ coreActions s a)
    (hinner : b.isInner = true) : a = .core b := by
  cases a with
  | core c => rw [List.mem_singleton.mp hb]
  | handle n closeFault =>
      rw [coreActions] at hb
      split at hb
      · rw [List.mem_singleton.mp hb] at hinner
        cases hinner
      · cases hb
  | tick ms =>
      rw [List.mem_singleton.mp hb] at hinner
      cases hinner
  | observe how =>
      rw [List.mem_singleton.mp hb] at hinner
      cases hinner
  | receive =>
      obtain ⟨frame, -, rfl⟩ := List.mem_map.mp hb
      cases hinner
  | take =>
      obtain ⟨objectId, -, rfl⟩ := List.mem_map.mp hb
      cases hinner
  | grow n =>
      obtain ⟨objectId, -, rfl⟩ := List.mem_map.mp hb
      cases hinner
  | _ => cases hb

/-- What the actions of the exchange in a step keep, and what the log plays no part in, the step
    keeps. -/
theorem Move.core_keeps {P : Exchange.State → Prop} (hmove : Move s a t)
    (hstep : ∀ b ∈ coreActions s a, ∀ u v, Exchange.Move u b v → P u → P v)
    (hlog : ∀ u log, P u → P { u with log := log }) (hs : P s.core) : P t.core := by
  obtain ⟨u, hrun, hmuted⟩ := hmove.core_run
  rw [Exchange.run?_eq_follow] at hrun
  have hu : P u := Run.follow_keeps_of_mem
    (fun b hb v w hvw => hstep b hb v w (Exchange.move_of_step hvw)) hs hrun
  rw [Exchange.muted_eq_iff.mp hmuted.symm]
  exact hlog u _ hu

/-- The actions of the exchange in a run of the session, with those that led to its start. -/
def coreRun (options : Options) (as : List Action) : List Exchange.Action :=
  openingActions ++ Run.along step? coreActions (opened options) as

theorem coreRun_append {bs : List Action} (hrun : run? (opened options) as = some s) :
    coreRun options (as ++ bs) = coreRun options as ++ Run.along step? coreActions s bs := by
  rw [run?_eq_follow] at hrun
  rw [coreRun, Run.along_append _ _ _ _ hrun, ← List.append_assoc, coreRun]

/-- The exchange of a session is where its own run leads, but for the log. -/
theorem core_of_run (hrun : run? (opened options) as = some s) :
    ∃ u, Exchange.run? {} (coreRun options as) = some u ∧ u.muted = s.core.muted := by
  rw [run?_eq_follow] at hrun
  refine Run.follow_induction
    (motive := fun as s =>
      ∃ u, Exchange.run? {} (coreRun options as) = some u ∧ u.muted = s.core.muted)
    ?_ ?_ hrun
  · refine ⟨openedCore, ?_, rfl⟩
    rw [coreRun, Run.along, List.append_nil]
    exact run_openingActions
  · rintro as u a v hrun hstep ⟨core, hcore, hmuted⟩
    obtain ⟨w, hw, hwmuted⟩ := (move_of_step hstep).core_run
    obtain ⟨core', hcore', hcoremuted⟩ := Exchange.run_of_muted hmuted hw
    refine ⟨core', ?_, hcoremuted.trans hwmuted⟩
    rw [coreRun, Run.along_snoc _ hrun hstep, ← List.append_assoc, ← coreRun,
      Exchange.run?_append, hcore]
    exact hcore'

theorem exists_log_of_run (hrun : run? (opened options) as = some s) :
    ∃ log, Exchange.run? {} (coreRun options as) = some { s.core with log := log } := by
  obtain ⟨u, hu, hmuted⟩ := core_of_run hrun
  rw [Exchange.muted_eq_iff] at hmuted
  exact ⟨u.log, hmuted ▸ hu⟩

/-- When nobody in a session can act, nobody in its exchange can. -/
theorem Settled.core {log : List Notice} (h : Settled s) :
    Exchange.Settled { s.core with log := log } := by
  intro b hinner
  cases hb : Exchange.step? { s.core with log := log } b with
  | none => rfl
  | some v =>
      have hmuted : s.core.muted = Exchange.State.muted { s.core with log := log } := rfl
      obtain ⟨w, hw, -⟩ := Exchange.step_of_muted hmuted hb
      have hstep := h (.core b) rfl
      simp [step?, hinner, hw] at hstep

theorem Settled.exists_log (h : Settled s) (hrun : run? (opened options) as = some s) :
    ∃ log, Exchange.run? {} (coreRun options as) = some { s.core with log := log } ∧
      Exchange.Settled { s.core with log := log } := by
  obtain ⟨log, hcore⟩ := exists_log_of_run hrun
  exact ⟨log, hcore, h.core⟩

end ConsoleTap.Session
