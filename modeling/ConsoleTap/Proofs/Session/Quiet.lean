import ConsoleTap.Proofs.Session.Output

/-!
# When nobody can act

In a settled session everything that was passed on is taken, the lines of every finished
job are handed over, and whatever a job waits for is a call that waits itself: its caller
has written and was given no word.
-/

namespace ConsoleTap.Session

open ConsoleTap.Json

variable {options : Options} {s : State} {as : List Action} {n : Nat} {fetch : Fetch} {job : Job}
  {rest : List Job} {groups : List (List String)}

theorem JobOf.finished {outcome? : Nat → Option Exchange.Outcome} {hops : Nat} {frame : Value}
    {fetches : Fetches} (h : JobOf outcome? hops frame fetches job)
    (hnone : ∀ n, job.fetch? n = none) : ∃ ls, job.lines? = some ls := by
  unfold JobOf at h
  split at h
  · rename_i ls heq
    obtain ⟨-, rfl⟩ := h
    exact ⟨ls, rfl⟩
  · obtain ⟨drafts, hdrafted, rfl⟩ := h
    obtain ⟨nodes, hnodes⟩ := hdrafted.finished fun n => List.findSome?_eq_none_iff.mp (hnone n)
    exact ⟨_, by rw [Job.lines?, hnodes, Option.map_some]⟩

theorem Settled.emitting (hsettled : Settled s) : s.emitting = [] := by
  have hnone : s.emit? = none := hsettled .emit rfl
  unfold State.emit? at hnone
  split at hnone
  · assumption
  · cases hnone

theorem Settled.queue (hsettled : Settled s) (hrun : run? (opened options) as = some s) :
    s.queue = [] := by
  cases hexpecting : s.expecting with
  | false => exact ((ceased_of_run hrun).expecting hexpecting).2
  | true =>
      have hnone := hsettled .take rfl
      cases hqueue : s.queue with
      | nil => rfl
      | cons frame rest => simp [step?, hexpecting, hqueue] at hnone

theorem Settled.inbound (hsettled : Settled s) (hreceiving : s.receiving = true) :
    s.inbound = [] := by
  have hnone := hsettled .receive rfl
  cases hinbound : s.inbound with
  | nil => rfl
  | cons x rest => simp [step?, hreceiving, hinbound] at hnone

/-- The first job waits for something. -/
theorem Settled.exists_fetch (hsettled : Settled s) (hdispatched : Dispatched options as s groups)
    (hjobs : s.jobs = job :: rest) : ∃ n fetch, job.fetch? n = some fetch := by
  by_contra hnone
  have hfetch : ∀ n, job.fetch? n = none := by
    intro n
    rw [Option.eq_none_iff_forall_ne_some]
    exact fun fetch hfetch => hnone ⟨n, fetch, hfetch⟩
  have hfirst : s.jobs[0]? = some job := by rw [hjobs]; rfl
  obtain ⟨frame, fetches, -, -, hjob⟩ := hdispatched.job hfirst
  obtain ⟨ls, hlines⟩ := hjob.finished hfetch
  have hcollect : s.collect? = none := hsettled .collect rfl
  simp [State.collect?, hsettled.emitting, hjobs, hlines] at hcollect

theorem exists_fetch_of_mem (hmem : job ∈ s.jobs) (hfetch : job.fetch? n = some fetch) :
    ∃ fetch', s.jobs.findSome? (Job.fetch? n) = some fetch' := by
  cases hfirst : s.jobs.findSome? (Job.fetch? n) with
  | some fetch' => exact ⟨fetch', rfl⟩
  | none =>
      rw [List.findSome?_eq_none_iff.mp hfirst job hmem] at hfetch
      cases hfetch

theorem Settled.outcome_eq_none (hsettled : Settled s) (hmem : job ∈ s.jobs)
    (hfetch : job.fetch? n = some fetch) : s.core.outcome? n = none := by
  cases houtcome : s.core.outcome? n with
  | none => rfl
  | some outcome =>
      -- the outcome could be put in its place
      obtain ⟨fetch', hfirst⟩ := exists_fetch_of_mem hmem hfetch
      have hnone : s.growCall? n = none := hsettled (.grow n) rfl
      have hbind : (s.core.calls[n]?).bind Exchange.Call.outcome? = some outcome := houtcome
      simp [State.growCall?, hbind, hfirst] at hnone

/-- What a job waits for is a call that waits for the keeper's word. -/
theorem Settled.waiting_of_fetch (hsettled : Settled s) (hmem : job ∈ s.jobs)
    (hfetch : job.fetch? n = some fetch) {c : Exchange.Call} (hcall : s.core.calls[n]? = some c) :
    ∃ id, c.phase = .waiting id ∧ c.word = none := by
  have hquiet : Exchange.Settled s.core := hsettled.core
  rcases hquiet.call hcall with ⟨o, hdone⟩ | hwaiting
  · have hnone := hsettled.outcome_eq_none hmem hfetch
    rw [Exchange.outcome?_of_done hcall hdone] at hnone
    cases hnone
  · exact hwaiting

/-! ### Finding out -/

/-- What the parties could do, by all that the state has of them. -/
def State.candidates (s : State) : List Action :=
  s.core.candidates.map .core ++ (List.range s.core.calls.length).map .grow ++
    (List.range s.handles.length).map (fun n => .handle n none) ++
    [.receive, .ceaseReceiving, .take, .expectNone, .collect, .emit, .ceaseDispatching,
      .observe .channelClosed, .observe .closeRequested, .join, .finish]

/-- Whether somebody can go on closing does not depend on how closing the channel goes. -/
theorem handleStep?_eq_none (closeFault : Option TransportFault)
    (h : s.handleStep? n none = none) : s.handleStep? n closeFault = none := by
  unfold State.handleStep? at h ⊢
  split at h
  · cases h
  · cases h
  · split at h
    · cases h
    · rename_i hnot
      exact if_neg hnot
  · rfl
  · rfl

theorem settled_iff : Settled s ↔ ∀ a ∈ s.candidates, step? s a = none := by
  constructor
  · intro h a ha
    apply h
    simp only [State.candidates, List.mem_append, List.mem_map, List.mem_cons, List.not_mem_nil,
      or_false] at ha
    rcases ha with ((⟨b, -, rfl⟩ | ⟨n, -, rfl⟩) | ⟨n, -, rfl⟩) | rfl | rfl | rfl | rfl | rfl | rfl |
      rfl | rfl | rfl | rfl | rfl <;> rfl
  · intro h a ha
    have hcore : Exchange.Settled s.core := by
      rw [Exchange.settled_iff]
      intro b hb
      have hnone := h (.core b) (by simp [State.candidates, hb])
      rw [step?, if_pos (Exchange.isInner_of_mem_candidates hb), Option.map_eq_none_iff] at hnone
      exact hnone
    cases a with
    | core b =>
        rw [step?]
        split
        · rename_i hinner
          rw [hcore b hinner, Option.map_none]
        · rfl
    | grow n =>
        by_cases hn : n < s.core.calls.length
        · exact h (.grow n) (by simp [State.candidates, hn])
        · simp [step?, State.growCall?, List.getElem?_eq_none (Nat.not_lt.mp hn)]
    | handle n closeFault =>
        by_cases hn : n < s.handles.length
        · have hnone : s.handleStep? n none = none := h (.handle n none) (by
            simp [State.candidates, hn])
          exact handleStep?_eq_none closeFault hnone
        · simp [step?, State.handleStep?, List.getElem?_eq_none (Nat.not_lt.mp hn)]
    | observe how => cases how <;> exact h _ (by simp [State.candidates])
    | arrive | close | breakOutput | tick => cases ha
    | _ => exact h _ (by simp [State.candidates])

instance (s : State) : Decidable (Settled s) :=
  decidable_of_iff (∀ a ∈ s.candidates, (step? s a).isNone = true)
    (by simp only [Option.isNone_iff_eq_none, settled_iff])

end ConsoleTap.Session
