import ConsoleTap.Proofs.Exchange.Finality
import ConsoleTap.Proofs.Session.Arrivals
import Mathlib

/-!
# A closed session stays closed

Of all that call for a close, one finds the session open: it goes on to mark the session
closed and to close the channel before anybody else can look.  So the channel is closed at
most once, and only by somebody who found the session open.  What the exchange has to say
about a closed session holds of its calls, those for properties among them.
-/

namespace ConsoleTap.Session

open ConsoleTap.Json

variable {options : Options} {s t u : State} {a : Action} {as before after : List Action}
  {n k : Nat} {m r : Moment}

/-! ### Closing the channel -/

/-- Whoever closes the session found it open and has still to close the channel. -/
def HandlePhase.isUnderWay : HandlePhase → Bool
  | .admitted | .shutting _ => true
  | .asked | .done => false

def State.Closing (s : State) (n : Nat) : Prop :=
  ∃ phase, s.handles[n]? = some phase ∧ phase.isUnderWay = true

/-- What a party does without waiting is one piece: nobody else acts in the middle of it.  A close
    is one piece up to the closing of the channel. -/
structure Unbroken (options : Options) (as : List Action) : Prop where
  core : Exchange.Unbroken (coreRun options as)
  handle : ∀ m n k closeFault, Occurs options as m → m.state.Closing n →
    m.action = .handle k closeFault → k = n

/-- Whether each other handle is closing the session while one acts. -/
def handleTurnsKept (s : State) : Action → List Bool
  | .handle k _ => s.handles.zipIdx.map fun (phase, n) => decide (k = n) || !phase.isUnderWay
  | _ => []

theorem handle_of_handleTurnsKept
    (h : ∀ kept ∈ Run.along step? handleTurnsKept (opened options) as, kept = true)
    {closeFault : Option TransportFault} (hm : Occurs options as m) (hclosing : m.state.Closing n)
    (haction : m.action = .handle k closeFault) : k = n := by
  obtain ⟨phase, hphase, hway⟩ := hclosing
  have hkept : (decide (k = n) || !phase.isUnderWay) ∈ handleTurnsKept m.state m.action := by
    rw [haction]
    exact List.mem_map_of_mem (List.mk_mem_zipIdx_iff_getElem?.mpr hphase)
  have htrue := h _ ((Run.Moment.In.along_snoc_prefix handleTurnsKept hm).subset
    (List.mem_append_right _ hkept))
  simpa [hway] using htrue

/-- In that step the channel is closed by the handle of that number. -/
def ClosesChannel (n : Nat) (m : Moment) : Prop :=
  ∃ closeFault closer, m.action = .handle n closeFault ∧
    m.state.handles[n]? = some (.shutting closer)

/-- In that step the handle of that number finds the session open. -/
def FindsOpen (n : Nat) (m : Moment) : Prop :=
  (∃ closeFault, m.action = .handle n closeFault) ∧ m.state.handles[n]? = some .asked ∧
    m.state.core.closed = false

/-- One handle at most is closing the session, and once the channel was closed none is. -/
structure ClosesOnce (s : State) : Prop where
  alone : ∀ n k, s.Closing n → s.Closing k → n = k
  unclosed : ∀ n, s.Closing n → s.channelCloses = 0
  once : s.channelCloses ≤ 1
  marked : 0 < s.channelCloses → s.core.closed = true

theorem getElem?_set_cases {phases : List HandlePhase} {φ ψ : HandlePhase}
    (h : (phases.set n φ)[k]? = some ψ) : (k = n ∧ ψ = φ) ∨ (k ≠ n ∧ phases[k]? = some ψ) := by
  by_cases hk : k = n
  · subst hk
    obtain ⟨hlt, heq⟩ := List.getElem?_eq_some_iff.mp h
    rw [List.getElem_set_self] at heq
    exact Or.inl ⟨rfl, heq.symm⟩
  · rw [List.getElem?_set_ne (Ne.symm hk)] at h
    exact Or.inr ⟨hk, h⟩

theorem ClosesOnce.same (h : ClosesOnce s) (hmove : Move s a t)
    (hclosing : ∀ n, t.Closing n → s.Closing n) (hcloses : t.channelCloses = s.channelCloses) :
    ClosesOnce t where
  alone n k hn hk := h.alone n k (hclosing n hn) (hclosing k hk)
  unclosed n hn := hcloses.trans (h.unclosed n (hclosing n hn))
  once := hcloses ▸ h.once
  marked hpos := hmove.lasts.closed (h.marked (hcloses ▸ hpos))

theorem ClosesOnce.step (h : ClosesOnce s) (hmove : Move s a t)
    (hturn : ∀ n k closeFault, s.Closing n → a = .handle k closeFault → k = n)
    (hdone : ∀ closer, s.closerDone closer = true → s.core.closed = true) : ClosesOnce t := by
  have hsame := h.same hmove
  cases hmove with
  | close =>
      refine hsame (fun n hn => ?_) rfl
      obtain ⟨phase, hphase, hway⟩ := hn
      rw [List.getElem?_append] at hphase
      split at hphase
      · exact ⟨phase, hphase, hway⟩
      · rw [List.mem_singleton.mp (List.mem_of_getElem? hphase)] at hway
        cases hway
  | @look n closeFault hhandle =>
      have hnot : ¬ s.Closing n := by
        rintro ⟨phase, hphase, hway⟩
        obtain rfl := Option.some.inj (hhandle.symm.trans hphase)
        cases hway
      have hnone : ∀ k, ¬ s.Closing k := fun k hk => hnot (hturn k n closeFault hk rfl ▸ hk)
      -- whoever is closing afterwards is the one that found the session open
      have hnew : ∀ k, State.Closing { s with
          handles := s.handles.set n (if s.core.closed then .done else .admitted) } k →
          k = n ∧ s.core.closed = false := by
        rintro k ⟨phase, hphase, hway⟩
        rcases getElem?_set_cases hphase with ⟨rfl, rfl⟩ | ⟨-, hphase⟩
        · cases hclosed : s.core.closed with
          | true =>
              rw [hclosed] at hway
              cases hway
          | false => exact ⟨rfl, rfl⟩
        · exact absurd ⟨phase, hphase, hway⟩ (hnone k)
      refine ⟨fun i j hi hj => (hnew i hi).1.trans (hnew j hj).1.symm, fun i hi => ?_, h.once,
        h.marked⟩
      by_contra hne
      have hclosed := h.marked (Nat.pos_of_ne_zero hne)
      rw [(hnew i hi).2] at hclosed
      cases hclosed
  | @shut n closeFault core hhandle hask =>
      refine hsame (fun k hk => ?_) rfl
      obtain ⟨phase, hphase, hway⟩ := hk
      rcases getElem?_set_cases hphase with ⟨rfl, rfl⟩ | ⟨-, hphase⟩
      · exact ⟨.admitted, hhandle, rfl⟩
      · exact ⟨phase, hphase, hway⟩
  | @closeChannel n closer closeFault hhandle hcloser =>
      have hclosing : s.Closing n := ⟨_, hhandle, rfl⟩
      have hzero := h.unclosed n hclosing
      have hnone : ∀ k, ¬ State.Closing { s with
          core := extended s.core (closeFault.toList.map Notice.closeFailed) []
          handles := s.handles.set n .done
          channelCloses := s.channelCloses + 1 } k := by
        rintro k ⟨phase, hphase, hway⟩
        rcases getElem?_set_cases hphase with ⟨rfl, rfl⟩ | ⟨hne, hphase⟩
        · cases hway
        · exact hne (h.alone k n ⟨phase, hphase, hway⟩ hclosing)
      refine ⟨fun i j hi => absurd hi (hnone i), fun i hi => absurd hi (hnone i), ?_,
        fun _ => hdone closer hcloser⟩
      simp [hzero]
  | _ => exact hsame (fun n hn => hn) rfl

theorem closesOnce_of_run (hrun : run? (opened options) as = some s)
    (hturn : ∀ m n k closeFault, Occurs options as m → m.state.Closing n →
      m.action = .handle k closeFault → k = n) : ClosesOnce s := by
  rw [run?_eq_follow] at hrun
  refine Run.follow_induction
    (motive := fun as s => (∀ m n k closeFault, Occurs options as m → m.state.Closing n →
      m.action = .handle k closeFault → k = n) → ClosesOnce s) ?_ ?_ hrun hturn
  · intro _
    refine ⟨?_, ?_, Nat.zero_le _, fun h => absurd h (Nat.lt_irrefl _)⟩
    · rintro n k ⟨phase, hphase, -⟩
      simp [opened] at hphase
    · rintro n ⟨phase, hphase, -⟩
      rfl
  · intro as u a v hrun hstep ih hturn
    refine (ih fun m n k closeFault hm => hturn m n k closeFault (hm.snoc a)).step
      (move_of_step hstep) ?_ ?_
    · intro n k closeFault hclosing haction
      exact hturn _ n k closeFault (Run.Moment.in_last hrun hstep) hclosing haction
    · intro closer hcloser
      rw [← run?_eq_follow] at hrun
      obtain ⟨log, hcore⟩ := exists_log_of_run hrun
      rw [State.closerDone, beq_iff_eq] at hcloser
      exact (Exchange.closing_of_run hcore).done_closed (List.mem_of_getElem? hcloser)

theorem Move.closing (hmove : Move s a t) (hnew : ¬ s.Closing n) (hclosing : t.Closing n) :
    (∃ closeFault, a = .handle n closeFault) ∧ s.handles[n]? = some .asked ∧
      s.core.closed = false := by
  obtain ⟨phase, hphase, hway⟩ := hclosing
  cases hmove with
  | close =>
      rw [List.getElem?_append] at hphase
      split at hphase
      · exact absurd ⟨phase, hphase, hway⟩ hnew
      · rw [List.mem_singleton.mp (List.mem_of_getElem? hphase)] at hway
        cases hway
  | look hhandle =>
      rcases getElem?_set_cases hphase with ⟨rfl, rfl⟩ | ⟨-, hphase⟩
      · refine ⟨⟨_, rfl⟩, hhandle, ?_⟩
        by_contra hclosed
        rw [if_pos (eq_true_of_ne_false hclosed)] at hway
        cases hway
      · exact absurd ⟨phase, hphase, hway⟩ hnew
  | shut hhandle hask =>
      rcases getElem?_set_cases hphase with ⟨rfl, rfl⟩ | ⟨-, hphase⟩
      · exact absurd ⟨_, hhandle, rfl⟩ hnew
      · exact absurd ⟨phase, hphase, hway⟩ hnew
  | closeChannel hhandle hdone =>
      rcases getElem?_set_cases hphase with ⟨rfl, rfl⟩ | ⟨-, hphase⟩
      · cases hway
      · exact absurd ⟨phase, hphase, hway⟩ hnew
  | _ => exact absurd ⟨phase, hphase, hway⟩ hnew

/-- Whoever closes the channel found the session open. -/
theorem ClosesChannel.found_open (hm : Occurs options as m) (hcloses : ClosesChannel n m) :
    ∃ r, Occurs options as r ∧ r.Earlier m ∧ FindsOpen n r := by
  obtain ⟨closeFault, closer, -, hhandle⟩ := hcloses
  have hstart : ¬ State.Closing (opened options) n := by
    rintro ⟨phase, hphase, -⟩
    simp [opened] at hphase
  obtain ⟨r, hr, hnew, hclosing⟩ :=
    exists_moment (P := fun u => u.Closing n) hm.run ⟨_, hhandle, rfl⟩ hstart
  obtain ⟨hras, hearlier⟩ := hm.earlier hr
  exact ⟨r, hras, hearlier, hras.move.closing hnew hclosing⟩

/-! ### The whole -/

/-- From the moment at which a session is closed. -/
theorem final_of_unbroken (hunbroken : Unbroken options (before ++ after))
    (hbefore : run? (opened options) before = some u) (hafter : run? u after = some s)
    (hclosed : u.core.closed = true) : Exchange.Final u.core s.core := by
  obtain ⟨log, hcore⟩ := exists_log_of_run hbefore
  have hrun : run? (opened options) (before ++ after) = some s := by
    rw [run?_append, hbefore, Option.bind_some, hafter]
  obtain ⟨log', hcore'⟩ := exists_log_of_run hrun
  obtain ⟨rest, hrest⟩ : coreRun options before <+: coreRun options (before ++ after) := by
    rw [coreRun_append hbefore]
    exact List.prefix_append _ _
  have hfinal := (Exchange.finality_of_run hcore' hunbroken.core).final _ rest _ hrest.symm hcore
    hclosed
  exact ⟨hfinal.closed, hfinal.writes, hfinal.nextId, hfinal.cancelled, fun n hn hunbegun hsettled =>
    hfinal.settled n hn hunbegun (hsettled.relogged log')⟩

/-- Closed is final.  When no party is interrupted between two waits, then from the moment at which an
    exchange is closed on nothing is written and no id is drawn, whoever begins is cancelled, and a
    request ends otherwise only through its own failed write, through a frame that arrived before,
    or because it expired before the keeper took the shutdown.  So it is in a session, whose
    channel is closed once at most, by somebody who found the session open. -/
theorem closed_is_final :
    (∀ as s, Exchange.run? {} as = some s → Exchange.Unbroken as → Exchange.Finality as s) ∧
    ∀ options sink s₀ as s, State.start options sink = .ok s₀ → run? s₀ as = some s →
      Unbroken options as →
        (∃ log, Exchange.Finality (coreRun options as) { s.core with log := log }) ∧
        (∀ before after u, as = before ++ after → run? s₀ before = some u →
          u.core.closed = true → Exchange.Final u.core s.core) ∧
        s.channelCloses ≤ 1 ∧
        ∀ m n, Occurs options as m → ClosesChannel n m →
          ∃ r, Occurs options as r ∧ r.Earlier m ∧ FindsOpen n r := by
  refine ⟨fun as s hrun hunbroken => Exchange.finality_of_run hrun hunbroken, ?_⟩
  intro options sink s₀ as s hstart hrun hunbroken
  obtain rfl := start_eq_opened hstart
  obtain ⟨log, hcore⟩ := exists_log_of_run hrun
  refine ⟨⟨log, Exchange.finality_of_run hcore hunbroken.core⟩, ?_, ?_, ?_⟩
  · rintro before after u rfl hbefore hclosed
    rw [run?_append, hbefore, Option.bind_some] at hrun
    exact final_of_unbroken hunbroken hbefore hrun hclosed
  · exact (closesOnce_of_run hrun hunbroken.handle).once
  · exact fun m n hm hcloses => hcloses.found_open hm

/-- When the exchange is closed, the reply to one request has arrived, the write of another one has
    failed and a third was not begun. -/
def shutRun : List Exchange.Action :=
  [.begin "replied" none (some 5), .begin "refused" none (some 5), .caller 0 none,
    .caller 0 none, .caller 0 none, .caller 0 none, .caller 1 none, .caller 1 none,
    .caller 1 none, .caller 1 (some .closed),
    .route (.object [("id", .integer 1), ("result", .null)]), .ask, .closer 0, .closer 0,
    .closer 0, .begin "late" none (some 5), .caller 2 none, .caller 1 none, .handle, .handle,
    .handle, .caller 0 none]

/-- Whether its pieces are unbroken, whether it is closed when they are over, and how the requests
    end. -/
theorem shutRun_eval :
    ((Run.along Exchange.step? Exchange.piecesKept {} shutRun).all id,
      (Exchange.run? {} (shutRun.take 15)).bind fun u =>
        (Exchange.run? u (shutRun.drop 15)).map fun s =>
          (u.closed, u.calls.length, s.calls.map fun c => (c.limit, c.phase))) =
      (true, some (true, 2,
        [(some 5, .done (.ok .null)), (some 5, .done (.error (.transport .closed))),
          (some 5, .done (.error .cancelled))])) := by
  cbv

/-- Two frames arrive; the session is closed twice while the fetch for the first one is under way, and
    the second one is taken only then. -/
def twiceClosedRun : List Action :=
  [.arrive (.frame (callFrame "7").compact), .arrive (.frame (callFrame "8").compact), .receive,
    .receive, .core .handle, .core .handle, .take, .core (.caller 3 none),
    .core (.caller 3 none), .core (.caller 3 none), .core (.caller 3 none), .close, .close,
    .handle 0 none, .handle 0 none, .core (.closer 0), .core (.closer 0), .core (.closer 0),
    .handle 0 none, .handle 1 none, .take, .core (.caller 4 none)]

theorem twiceClosedRun_eval :
    ((Run.along Exchange.step? Exchange.piecesKept {} (coreRun {} twiceClosedRun)).all id,
      (Run.along step? handleTurnsKept (opened {}) twiceClosedRun).all id,
      (run? (opened {}) (twiceClosedRun.take 19)).bind fun u =>
        (run? u (twiceClosedRun.drop 19)).map fun s =>
          (u.core.closed, u.core.calls.length, s.channelCloses, s.core.outcome? 4)) =
      (true, true, some (true, 4, 1, some (.error .cancelled))) := by
  cbv

theorem closed_is_final_twice :
    (∃ u s, Exchange.Unbroken shutRun ∧ Exchange.run? {} (shutRun.take 15) = some u ∧
      Exchange.run? {} shutRun = some s ∧ Exchange.Final u s ∧ u.Unbegun 2 ∧
      ∀ n c o, s.calls[n]? = some c → c.phase = .done o → Exchange.Ends shutRun n o) ∧
    State.start {} {} = .ok (opened {}) ∧ Unbroken {} twiceClosedRun ∧
      ∃ u s, run? (opened {}) (twiceClosedRun.take 19) = some u ∧
        run? (opened {}) twiceClosedRun = some s ∧ Exchange.Final u.core s.core ∧
        u.core.Unbegun 4 ∧ s.core.outcome? 4 = some (.error .cancelled) ∧ s.channelCloses = 1 := by
  constructor
  · have heval := shutRun_eval
    simp only [Prod.mk.injEq] at heval
    obtain ⟨hkept, hruns⟩ := heval
    obtain ⟨u, hu, hrest⟩ := Option.bind_eq_some_iff.mp hruns
    obtain ⟨s, hs, hshown⟩ := Option.map_eq_some_iff.mp hrest
    simp only [Prod.mk.injEq] at hshown
    obtain ⟨hclosed, hlength, hcalls⟩ := hshown
    have hunbroken : Exchange.Unbroken shutRun :=
      Exchange.unbroken_of_piecesKept fun kept hmem => List.all_eq_true.mp hkept kept hmem
    have hrun : Exchange.run? {} shutRun = some s := by
      rw [← List.take_append_drop 15 shutRun, Exchange.run?_append, hu, Option.bind_some, hs]
    have hfinality := closed_is_final.1 shutRun s hrun hunbroken
    refine ⟨u, s, hunbroken, hu, hrun,
      hfinality.final _ _ u (List.take_append_drop 15 shutRun).symm hu hclosed, ?_, ?_⟩
    · intro c hcall
      have hlt := (List.getElem?_eq_some_iff.mp hcall).1
      omega
    · intro n c o hcall hdone
      have hlimit : c.limit = some 5 := by
        have hmem := List.mem_map_of_mem (f := fun c => (c.limit, c.phase))
          (List.mem_of_getElem? hcall)
        rw [hcalls] at hmem
        simp only [List.mem_cons, List.not_mem_nil, or_false, Prod.mk.injEq] at hmem
        rcases hmem with ⟨hlimit, -⟩ | ⟨hlimit, -⟩ | ⟨hlimit, -⟩ <;> exact hlimit
      exact hfinality.ends n c 5 o hcall hlimit hdone
  · have heval := twiceClosedRun_eval
    simp only [Prod.mk.injEq] at heval
    obtain ⟨hpieces, hturns, hruns⟩ := heval
    obtain ⟨u, hu, hrest⟩ := Option.bind_eq_some_iff.mp hruns
    obtain ⟨s, hs, hshown⟩ := Option.map_eq_some_iff.mp hrest
    simp only [Prod.mk.injEq] at hshown
    obtain ⟨hclosed, hlength, hcloses, houtcome⟩ := hshown
    have hunbroken : Unbroken {} twiceClosedRun :=
      { core := Exchange.unbroken_of_piecesKept fun kept hmem =>
          List.all_eq_true.mp hpieces kept hmem
        handle := fun m n k closeFault hm hclosing haction =>
          handle_of_handleTurnsKept (fun kept hmem => List.all_eq_true.mp hturns kept hmem) hm
            hclosing haction }
    have hrun : run? (opened {}) twiceClosedRun = some s := by
      rw [← List.take_append_drop 19 twiceClosedRun, run?_append, hu, Option.bind_some, hs]
    obtain ⟨-, hfinal, -, -⟩ :=
      closed_is_final.2 {} {} _ twiceClosedRun s start_default hrun hunbroken
    refine ⟨start_default, hunbroken, u, s, hu, hrun,
      hfinal _ _ u (List.take_append_drop 19 twiceClosedRun).symm hu hclosed, ?_, houtcome, hcloses⟩
    intro c hcall
    have hlt := (List.getElem?_eq_some_iff.mp hcall).1
    omega

end ConsoleTap.Session
