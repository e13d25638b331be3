import ConsoleTap.Proofs.Exchange.Deadlines
import ConsoleTap.Proofs.Session.Quiet

/-!
# The pace of a session

Frames are passed on as the clock goes, so the times at which they are passed on are in
their order.  A session is paced if the clock moves only when nobody can act and no frame
arrives while a request is overdue.  Then what waits for the dispatcher was passed on just
now, and no frame is on its way to the keeper when the clock moves.
-/

namespace ConsoleTap.Session

open ConsoleTap.Json

variable {options : Options} {s t : State} {a : Action} {as : List Action}

/-! ### When frames are passed on -/

/-- The frame that the keeper passes on in a step. -/
def passedFrame (s : State) : Action → List Value
  | .core a => Exchange.eventFrame s.core a
  | _ => []

/-- The time at which it does. -/
def passedTime (s : State) (a : Action) : List Nat := (passedFrame s a).map fun _ => s.core.now

/-- The times at which the frames were passed on in a run, in order. -/
def passedTimes (options : Options) (as : List Action) : List Nat :=
  Run.along step? passedTime (opened options) as

theorem Move.forwarded (hmove : Move s a t) (hreader : s.core.readerGone = false) :
    t.core.forwarded = s.core.forwarded ++ passedFrame s a := by
  cases hmove with
  | core hinner hstep =>
      have hcore := Exchange.move_of_step hstep
      exact (hcore.forwarded ((hcore.inner hinner).2.trans hreader)).2
  | receive hreceiving hinbound hread hroute =>
      cases Exchange.move_of_step hroute <;> exact (List.append_nil _).symm
  | observe hrunner hend hask =>
      obtain rfl := Option.some.inj hask
      exact (List.append_nil _).symm
  | shut hhandle hask =>
      obtain rfl := Option.some.inj hask
      exact (List.append_nil _).symm
  | _ => exact (List.append_nil _).symm

theorem Move.tick_of_mem (hmove : Move s a t) {ms : Nat} (hmem : .tick ms ∈ coreActions s a) :
    a = .tick ms := by
  cases hmove with
  | core hinner hstep =>
      obtain rfl := List.mem_singleton.mp hmem
      cases hinner
  | look hhandle => simp [coreActions, hhandle] at hmem
  | shut hhandle hask => simp [coreActions, hhandle] at hmem
  | closeChannel hhandle hdone => simp [coreActions, hhandle] at hmem
  | _ => simp_all [coreActions, fetchAction]

theorem Move.now (hmove : Move s a t) (htick : ∀ ms, a ≠ .tick ms) : t.core.now = s.core.now := by
  refine hmove.core_keeps (P := fun u => u.now = s.core.now) ?_ (fun _ _ hu => hu) rfl
  intro b hb u v hcore hu
  refine (hcore.now ?_).trans hu
  rintro ms rfl
  exact htick ms (hmove.tick_of_mem hb)

/-- The times belong to the frames passed on, the later ones to the later frames, and what the
    dispatcher has not taken was passed on just now. -/
structure Clocked (s : State) (times : List Nat) : Prop where
  length_eq : times.length = s.core.forwarded.length
  sorted : times.Pairwise (· ≤ ·)
  past : ∀ x ∈ times, x ≤ s.core.now
  waiting : ∀ {i x : Nat}, times[i]? = some x → s.taken ≤ i → x = s.core.now

theorem Clocked.step {times : List Nat} (h : Clocked s times)
    (hreader : s.core.readerGone = false) (hmove : Move s a t) (htick : ∀ ms, a ≠ .tick ms) :
    Clocked t (times ++ passedTime s a) := by
  have hnow := hmove.now htick
  have hnew : ∀ x ∈ passedTime s a, x = s.core.now := by
    intro x hx
    obtain ⟨frame, -, rfl⟩ := List.mem_map.mp hx
    rfl
  constructor
  · rw [hmove.forwarded hreader, List.length_append, List.length_append, h.length_eq, passedTime,
      List.length_map]
  · rw [List.pairwise_append]
    refine ⟨h.sorted, ?_, fun x hx y hy => (h.past x hx).trans_eq (hnew y hy).symm⟩
    rw [List.pairwise_iff_forall_sublist]
    intro x y hxy
    rw [hnew x (hxy.subset List.mem_cons_self),
      hnew y (hxy.subset (List.mem_cons_of_mem x List.mem_cons_self))]
  · intro x hx
    rw [hnow]
    rcases List.mem_append.mp hx with hx | hx
    · exact h.past x hx
    · exact (hnew x hx).le
  · intro i x hx hi
    rw [hnow]
    by_cases hlt : i < times.length
    · rw [List.getElem?_append_left hlt] at hx
      exact h.waiting hx (hmove.taken_le.trans hi)
    · rw [List.getElem?_append_right (Nat.not_lt.mp hlt)] at hx
      exact hnew x (List.mem_of_getElem? hx)

/-- The clock may move when the dispatcher has taken everything. -/
theorem Clocked.tick {times : List Nat} (h : Clocked s times) (hqueue : s.queue = []) (ms : Nat) :
    Clocked { s with core := { s.core with now := s.core.now + ms } } times where
  length_eq := h.length_eq
  sorted := h.sorted
  past x hx := (h.past x hx).trans (Nat.le_add_right _ _)
  waiting {i x} hx hi := by
    have hlt := (List.getElem?_eq_some_iff.mp hx).1
    rw [State.queue, List.drop_eq_nil_iff] at hqueue
    rw [h.length_eq] at hlt
    exact absurd (hlt.trans_le hqueue) (Nat.not_lt.mpr hi)

/-! ### Frames in flight -/

/-- A frame is on its way to the keeper. -/
def State.InFlight (s : State) : Prop :=
  (s.core.keeper = .running ∧ Exchange.frames s.core.mailbox ≠ []) ∨
    (s.receiving = true ∧ ∃ text, .frame text ∈ s.inbound)

theorem Move.inFlight (hmove : Move s a t) (harrive : ∀ text, a ≠ .arrive (.frame text))
    (ht : t.InFlight) : s.InFlight := by
  cases hmove with
  | arrive x hhungUp =>
      refine ht.imp_right (And.imp_right ?_)
      rintro ⟨text, htext⟩
      rcases List.mem_append.mp htext with htext | htext
      · exact ⟨text, htext⟩
      · exact absurd (congrArg Action.arrive (List.mem_singleton.mp htext).symm) (harrive text)
  | core hinner hstep =>
      rename_i b core
      refine ht.imp_left ?_
      rintro ⟨hrunning, hframes⟩
      have hcore := Exchange.move_of_step hstep
      have hkeeper := hcore.running hrunning
      have heq := hcore.frames (Exchange.mailboxOpen_of_running hkeeper)
      have hnone : b.routed? = none := by cases b <;> first | rfl | cases hinner
      refine ⟨hkeeper, fun hnil => hframes ?_⟩
      rw [hnil, hnone] at heq
      exact (List.append_eq_nil_iff.mp heq.symm).2
  | receive hreceiving hinbound hread hroute =>
      exact Or.inr ⟨hreceiving, _, hinbound ▸ List.mem_cons_self⟩
  | receiveMalformed n hreceiving hinbound hread =>
      exact Or.inr ⟨hreceiving, _, hinbound ▸ List.mem_cons_self⟩
  | receiveEnd n hreceiving hinbound hx =>
      refine ht.imp_right ?_
      rintro ⟨hfalse, -⟩
      cases hfalse
  | ceaseReceiving hreceiving hclosed =>
      refine ht.imp_right ?_
      rintro ⟨hfalse, -⟩
      cases hfalse
  | observe hrunner hend hask =>
      obtain rfl := Option.some.inj hask
      exact ht
  | shut hhandle hask =>
      obtain rfl := Option.some.inj hask
      exact ht
  | _ => exact ht

theorem Settled.not_inFlight (hsettled : Settled s) : ¬ s.InFlight := by
  rintro (⟨hrunning, hframes⟩ | ⟨hreceiving, text, htext⟩)
  · have hquiet : Exchange.Settled s.core := hsettled.core
    rcases hquiet.keeper with ⟨-, hmail⟩ | hstopped
    · exact hframes (by rw [hmail, Exchange.frames_nil])
    · rw [hrunning] at hstopped
      cases hstopped
  · rw [hsettled.inbound hreceiving] at htext
    cases htext

/-! ### Sessions at a pace -/

/-- The clock moves only when nobody can act, and no frame arrives while a request is overdue. -/
structure Paced (options : Options) (as : List Action) : Prop where
  clock : ∀ m ms, Occurs options as m → m.action = .tick ms → Settled m.state
  arrivals : ∀ m text, Occurs options as m → m.action = .arrive (.frame text) →
    m.state.core.hasOverdue = false

theorem Paced.mono {bs : List Action} (h : Paced options bs) (has : as <+: bs) :
    Paced options as where
  clock m ms hm := h.clock m ms (Run.Moment.In.mono hm has)
  arrivals m text hm := h.arrivals m text (Run.Moment.In.mono hm has)

/-- A session is paced if the clock moves and frames arrive only when nobody can act. -/
theorem paced_of_settled (h : ∀ m, Occurs options as m →
    (∃ ms, m.action = .tick ms) ∨ (∃ text, m.action = .arrive (.frame text)) →
      Settled m.state) : Paced options as where
  clock m ms hm haction := h m hm (Or.inl ⟨ms, haction⟩)
  arrivals m text hm haction := by
    have hsettled := h m hm (Or.inr ⟨text, haction⟩)
    obtain ⟨log, hcore, hquiet⟩ := hsettled.exists_log hm.run
    exact hquiet.not_overdue (Exchange.closing_of_run hcore)

/-- Whether a step keeps the pace. -/
def paceKept (s : State) : Action → List Bool
  | .tick _ => [decide (Settled s)]
  | .arrive (.frame _) => [!s.core.hasOverdue]
  | _ => []

theorem paced_of_paceKept
    (h : ∀ kept ∈ Run.along step? paceKept (opened options) as, kept = true) :
    Paced options as where
  clock m ms hm haction := by
    have hkept : decide (Settled m.state) ∈ paceKept m.state m.action := by
      rw [haction]
      exact List.mem_singleton_self _
    exact of_decide_eq_true (h _ ((Run.Moment.In.along_snoc_prefix paceKept hm).subset
      (List.mem_append_right _ hkept)))
  arrivals m text hm haction := by
    have hkept : (!m.state.core.hasOverdue) ∈ paceKept m.state m.action := by
      rw [haction]
      exact List.mem_singleton_self _
    exact (Bool.not_eq_true' _).mp (h _ ((Run.Moment.In.along_snoc_prefix paceKept hm).subset
      (List.mem_append_right _ hkept)))

end ConsoleTap.Session
