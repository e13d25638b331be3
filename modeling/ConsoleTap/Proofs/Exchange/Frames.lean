import ConsoleTap.Proofs.Exchange.Closing
import ConsoleTap.Proofs.Exchange.History
import Mathlib.Data.List.TakeWhile

/-!
# The way of frames through the exchange

Frames go through the mailbox in the order in which they arrive.  The keeper takes
them one by one until it takes a shutdown, and every frame that it takes either
resolves a request or is passed on.  So what it has taken is always a beginning of
what has arrived, and what was there before a shutdown is taken before it leaves.
-/

namespace ConsoleTap.Exchange

open ConsoleTap.Json ConsoleTap.Target

variable {s t : State} {a : Action} {as bs : List Action} {n id : Nat} {p : Pending}
  {frame : Value} {m m' : Moment}

/-! ### Frames among messages -/

/-- The frame that a message brings. -/
def Message.frame? : Message → Option Value
  | .frame frame => some frame
  | .register _ | .forget _ | .shutdown => none

/-- The frames among messages. -/
def frames (ms : List Message) : List Value := ms.filterMap Message.frame?

section Messages

variable (ms ms' : List Message)

@[simp] theorem frames_nil : frames [] = [] := rfl
@[simp] theorem frames_append : frames (ms ++ ms') = frames ms ++ frames ms' :=
  List.filterMap_append
@[simp] theorem frames_register (p : Pending) : frames (.register p :: ms) = frames ms := rfl
@[simp] theorem frames_forget (id : Nat) : frames (.forget id :: ms) = frames ms := rfl
@[simp] theorem frames_frame (frame : Value) :
    frames (.frame frame :: ms) = frame :: frames ms := rfl
@[simp] theorem frames_shutdown : frames (.shutdown :: ms) = frames ms := rfl

end Messages

/-- The frames that the keeper will come to before a shutdown. -/
def framesAhead (ms : List Message) : List Value :=
  frames (ms.takeWhile fun m => decide (m ≠ .shutdown))

/-! ### What a step does with frames -/

/-- The frame that arrives by an action. -/
def Action.routed? : Action → Option Value
  | .route frame => some frame
  | _ => none

/-- The frame that the keeper takes in a step, if any. -/
def takenFrame (s : State) : Action → List Value
  | .handle =>
      match s.keeper, s.mailbox with
      | .running, .frame frame :: _ => [frame]
      | _, _ => []
  | _ => []

/-- The frame that the keeper takes in a step, if it resolves no request. -/
def eventFrame (s : State) (a : Action) : List Value :=
  (takenFrame s a).filter fun frame => (s.awaited? frame).isNone

/-- The frames that arrive in a run, in order. -/
def routed (as : List Action) : List Value := as.filterMap Action.routed?

/-- The frames that the keeper takes in a run, in order. -/
def taken (as : List Action) : List Value := Run.along step? takenFrame {} as

/-- The frames that the keeper takes in a run and that resolve no request, in order. -/
def events (as : List Action) : List Value := Run.along step? eventFrame {} as

theorem routed_append (as bs : List Action) : routed (as ++ bs) = routed as ++ routed bs :=
  List.filterMap_append

theorem routed_snoc (as : List Action) (a : Action) :
    routed (as ++ [a]) = routed as ++ a.routed?.toList := by
  cases h : a.routed? <;> simp [routed, h]

theorem takes_iff : Takes frame s a ↔ takenFrame s a = [frame] := by
  constructor
  · rintro ⟨rfl, hkeeper, rest, hmail⟩
    simp [takenFrame, hkeeper, hmail]
  · intro h
    unfold takenFrame at h
    split at h
    · split at h
      · rename_i hkeeper hmail
        obtain rfl := List.cons.inj h |>.1
        exact ⟨rfl, hkeeper, _, hmail⟩
      · cases h
    · cases h

theorem mem_takenFrame : frame ∈ takenFrame s a ↔ Takes frame s a := by
  rw [takes_iff]
  constructor
  · intro h
    unfold takenFrame at h ⊢
    split at h
    · split at h
      · rw [List.mem_singleton.mp h]
      · cases h
    · cases h
  · intro h
    rw [h]
    exact List.mem_singleton_self frame

theorem takenFrame_of_not_running (h : s.keeper ≠ .running) : takenFrame s a = [] := by
  unfold takenFrame
  split
  · split
    · rename_i hkeeper _
      exact absurd hkeeper h
    · rfl
  · rfl

theorem Move.mailboxOpen (hmove : Move s a t) (hopen : t.mailboxOpen = true) :
    s.mailboxOpen = true := by
  cases hmove with
  | takeShutdown hkeeper hmail => simp [State.mailboxOpen, hkeeper]
  | shut hkeeper => simp [State.mailboxOpen] at hopen
  | stop hkeeper hmail => simp [State.cancelAll_eq, State.mailboxOpen] at hopen
  | expire hkeeper hoverdue => exact mailboxOpen_of_running hkeeper
  | withdraw hcall hphase =>
      rw [State.post] at hopen
      split at hopen
      · assumption
      · exact hopen
  | announce hcloser =>
      rw [State.post] at hopen
      split at hopen
      · assumption
      · exact hopen
  | _ => exact hopen

theorem Move.frames (hmove : Move s a t) (hopen : s.mailboxOpen = true) :
    frames s.mailbox ++ a.routed?.toList = takenFrame s a ++ frames t.mailbox := by
  have hdraining : s.keeper ≠ .draining := by
    intro hkeeper
    simp [State.mailboxOpen, hkeeper] at hopen
  cases hmove with
  | routeLate frame hshut =>
      rw [hopen] at hshut
      cases hshut
  | withdraw hcall hphase =>
      simp [State.post, hopen, State.setPhase, State.updateCall, Action.routed?, takenFrame]
  | announce hcloser => simp [State.post, hopen, Action.routed?, takenFrame]
  | expire hkeeper hoverdue => simp [State.expireAll_eq, Action.routed?, takenFrame]
  | discardRequest hkeeper hmail => exact absurd hkeeper hdraining
  | discardOther hkeeper hmail hother => exact absurd hkeeper hdraining
  | stop hkeeper hmail => exact absurd hkeeper hdraining
  | takeRequest hkeeper hmail => simp [hkeeper, hmail, Action.routed?, takenFrame, State.note]
  | takeForget hkeeper hmail => simp [hkeeper, hmail, Action.routed?, takenFrame]
  | takeReply hkeeper hmail hreply => simp [hkeeper, hmail, Action.routed?, takenFrame]
  | takeEvent hkeeper hmail hreply hreader =>
      simp [hkeeper, hmail, Action.routed?, takenFrame]
  | dropEvent hkeeper hmail hreply hreader =>
      simp [hkeeper, hmail, Action.routed?, takenFrame, State.note]
  | takeShutdown hkeeper hmail => simp [hkeeper, hmail, Action.routed?, takenFrame]
  | _ =>
      simp [Action.routed?, takenFrame, State.setPhase, State.updateCall, State.recordWrite]

/-- What the keeper has taken, with what waits in the open mailbox, is what has arrived. -/
theorem routed_eq (hrun : run? {} as = some s) (hopen : s.mailboxOpen = true) :
    routed as = taken as ++ frames s.mailbox := by
  rw [run?_eq_follow] at hrun
  refine Run.follow_induction
    (motive := fun as s => s.mailboxOpen = true → routed as = taken as ++ frames s.mailbox)
    (fun _ => rfl) ?_ hrun hopen
  intro as u a v hrun hstep ih hv
  have hmove := move_of_step hstep
  have hu := hmove.mailboxOpen hv
  rw [routed_snoc, taken, Run.along_snoc _ hrun hstep, ← taken, ih hu, List.append_assoc,
    List.append_assoc, hmove.frames hu]

theorem taken_prefix_routed (hrun : run? {} as = some s) : taken as <+: routed as := by
  rw [run?_eq_follow] at hrun
  refine Run.follow_induction (motive := fun as _ => taken as <+: routed as)
    List.prefix_rfl ?_ hrun
  intro as u a v hrun hstep ih
  have hmove := move_of_step hstep
  rw [routed_snoc, taken, Run.along_snoc _ hrun hstep, ← taken]
  cases hopen : u.mailboxOpen with
  | true =>
      rw [← run?_eq_follow] at hrun
      rw [routed_eq hrun hopen, List.append_assoc, hmove.frames hopen, ← List.append_assoc]
      exact List.prefix_append _ _
  | false =>
      have hkeeper : u.keeper ≠ .running := by
        rcases mailboxOpen_eq_false_iff.mp hopen with h | h <;> simp [h]
      rw [takenFrame_of_not_running hkeeper, List.append_nil]
      exact ih.trans (List.prefix_append _ _)

/-! ### What is passed on -/

theorem Move.forwarded (hmove : Move s a t) (hreader : t.readerGone = false) :
    s.readerGone = false ∧ t.forwarded = s.forwarded ++ eventFrame s a := by
  cases hmove with
  | leave => simp at hreader
  | takeReply hkeeper hmail hreply =>
      exact ⟨hreader, by simp [eventFrame, takenFrame, hkeeper, hmail, hreply]⟩
  | takeEvent hkeeper hmail hreply hread =>
      exact ⟨hreader, by simp [eventFrame, takenFrame, hkeeper, hmail, hreply]⟩
  | dropEvent hkeeper hmail hreply hread =>
      have hfalse : true = false := hread.symm.trans hreader
      cases hfalse
  | takeRequest hkeeper hmail =>
      exact ⟨hreader, by simp [eventFrame, takenFrame, hkeeper, hmail, State.note]⟩
  | takeForget hkeeper hmail =>
      exact ⟨hreader, by simp [eventFrame, takenFrame, hkeeper, hmail]⟩
  | takeShutdown hkeeper hmail =>
      exact ⟨hreader, by simp [eventFrame, takenFrame, hkeeper, hmail]⟩
  | expire hkeeper hoverdue =>
      rw [State.expireAll_eq] at hreader ⊢
      exact ⟨hreader, (List.append_nil _).symm⟩
  | stop hkeeper hmail =>
      rw [State.cancelAll_eq] at hreader ⊢
      exact ⟨hreader, (List.append_nil _).symm⟩
  | withdraw hcall hphase =>
      rw [State.post] at hreader ⊢
      split at hreader <;> rename_i hopen
      · simp [hopen, eventFrame, takenFrame, State.setPhase, State.updateCall] at hreader ⊢
        exact hreader
      · simp [hopen, eventFrame, takenFrame, State.setPhase, State.updateCall] at hreader ⊢
        exact hreader
  | announce hcloser =>
      rw [State.post] at hreader ⊢
      split at hreader <;> rename_i hopen
      · simp [hopen, eventFrame, takenFrame] at hreader ⊢
        exact hreader
      · simp [hopen, eventFrame, takenFrame] at hreader ⊢
        exact hreader
  | _ => exact ⟨hreader, (List.append_nil _).symm⟩

/-- As long as frames are read, those passed on are those taken that resolved no request. -/
theorem forwarded_eq_events (hrun : run? {} as = some s) (hreader : s.readerGone = false) :
    s.forwarded = events as := by
  rw [run?_eq_follow] at hrun
  refine Run.follow_induction
    (motive := fun as s => s.readerGone = false → s.forwarded = events as)
    (fun _ => rfl) ?_ hrun hreader
  intro as u a v hrun hstep ih hv
  obtain ⟨hu, hforwarded⟩ := (move_of_step hstep).forwarded hv
  rw [hforwarded, ih hu, events, events, Run.along_snoc _ hrun hstep]

/-! ### What comes before a shutdown -/

theorem framesAhead_append (ms ms' : List Message) :
    framesAhead ms <+: framesAhead (ms ++ ms') := by
  have hinit : (ms.takeWhile fun m => decide (m ≠ .shutdown)) <+:
      (ms ++ ms').takeWhile fun m => decide (m ≠ .shutdown) := by
    induction ms with
    | nil => exact List.nil_prefix
    | cons m ms ih =>
        rw [List.cons_append, List.takeWhile_cons, List.takeWhile_cons]
        split
        · exact (List.prefix_cons_inj m).mpr ih
        · exact List.nil_prefix
  exact hinit.filterMap _

theorem framesAhead_eq_frames {ms : List Message} (h : Message.shutdown ∉ ms) :
    framesAhead ms = frames ms := by
  have hall : ms.takeWhile (fun m => decide (m ≠ .shutdown)) = ms := by
    rw [List.takeWhile_eq_self_iff]
    intro m hm
    have hne : m ≠ .shutdown := fun heq => h (heq ▸ hm)
    simpa using hne
  rw [framesAhead, hall]

theorem Move.running (hmove : Move s a t) (hrunning : t.keeper = .running) :
    s.keeper = .running := by
  cases hmove with
  | takeShutdown hkeeper hmail => exact hkeeper
  | shut hkeeper => cases hrunning
  | stop hkeeper hmail =>
      rw [State.cancelAll_eq] at hrunning
      cases hrunning
  | expire hkeeper hoverdue => exact hkeeper
  | withdraw hcall hphase =>
      rw [State.post] at hrunning
      split at hrunning <;> exact hrunning
  | announce hcloser =>
      rw [State.post] at hrunning
      split at hrunning <;> exact hrunning
  | _ => exact hrunning

/-- While the keeper runs, the frames ahead of a shutdown are taken or stay ahead of it. -/
theorem Move.ahead (hmove : Move s a t) (hrunning : t.keeper = .running) :
    framesAhead s.mailbox <+: takenFrame s a ++ framesAhead t.mailbox := by
  have hopen : s.mailboxOpen = true := mailboxOpen_of_running (hmove.running hrunning)
  cases hmove with
  | route frame hroute => exact framesAhead_append _ _
  | routeLate frame hshut =>
      rw [hopen] at hshut
      cases hshut
  | register hcall hphase hlimit hregister => exact framesAhead_append _ _
  | withdraw hcall hphase =>
      rw [State.post, if_pos hopen]
      exact framesAhead_append _ _
  | announce hcloser =>
      rw [State.post, if_pos hopen]
      exact framesAhead_append _ _
  | takeRequest hkeeper hmail =>
      simp [takenFrame, hkeeper, hmail, framesAhead, State.note]
  | takeForget hkeeper hmail => simp [takenFrame, hkeeper, hmail, framesAhead]
  | takeReply hkeeper hmail hreply => simp [takenFrame, hkeeper, hmail, framesAhead]
  | takeEvent hkeeper hmail hreply hread =>
      simp [takenFrame, hkeeper, hmail, framesAhead]
  | dropEvent hkeeper hmail hreply hread =>
      simp [takenFrame, hkeeper, hmail, framesAhead, State.note]
  | takeShutdown hkeeper hmail => cases hrunning
  | expire hkeeper hoverdue =>
      rw [State.expireAll_eq]
      exact List.prefix_rfl
  | shut hkeeper => cases hrunning
  | discardRequest hkeeper hmail =>
      rw [hkeeper] at hrunning
      cases hrunning
  | discardOther hkeeper hmail hother =>
      rw [hkeeper] at hrunning
      cases hrunning
  | stop hkeeper hmail =>
      rw [State.cancelAll_eq] at hrunning
      cases hrunning
  | _ => exact List.prefix_rfl

/-- The keeper leaves its loop by taking a shutdown. -/
theorem Move.left (hmove : Move s a t) (hrunning : s.keeper = .running)
    (hleft : t.keeper ≠ .running) : Handles .shutdown s a := by
  cases hmove with
  | takeShutdown hkeeper hmail => exact ⟨rfl, hkeeper, _, hmail⟩
  | shut hkeeper =>
      rw [hrunning] at hkeeper
      cases hkeeper
  | stop hkeeper hmail =>
      rw [hrunning] at hkeeper
      cases hkeeper
  | expire hkeeper hoverdue =>
      rw [State.expireAll_eq] at hleft
      exact absurd hkeeper hleft
  | withdraw hcall hphase =>
      rw [State.post] at hleft
      split at hleft <;> exact absurd hrunning hleft
  | announce hcloser =>
      rw [State.post] at hleft
      split at hleft <;> exact absurd hrunning hleft
  | _ => exact absurd hrunning hleft

theorem handled_shutdown (hrun : run? {} as = some s) (hleft : s.keeper ≠ .running) :
    Happens as (Handles .shutdown) := by
  obtain ⟨m, hm, hrunning, hnext⟩ :=
    exists_moment (P := fun u => u.keeper ≠ .running) hrun hleft (by simp)
  exact ⟨m, hm, hm.move.left (not_ne_iff.mp hrunning) hnext⟩

/-- Whatever arrived before a shutdown was sent is taken by the time the keeper has left. -/
theorem taken_of_routed_before (hrun : run? {} as = some s) (hrunning : s.keeper = .running)
    (hmail : Message.shutdown ∉ s.mailbox) (hrest : run? s bs = some t)
    (hleft : t.keeper ≠ .running) : routed as <+: taken (as ++ bs) := by
  have htaken : ∀ {cs : List Action} {u v : State} {b : Action},
      Run.follow step? s cs = some u → step? u b = some v →
      taken (as ++ (cs ++ [b])) = taken (as ++ cs) ++ takenFrame u b := by
    intro cs u v b hcs hb
    rw [← List.append_assoc]
    refine Run.along_snoc takenFrame ?_ hb
    rw [Run.follow_append, ← run?_eq_follow, hrun]
    exact hcs
  rw [run?_eq_follow] at hrest
  refine (Run.follow_induction (motive := fun bs t =>
      (t.keeper = .running → routed as <+: taken (as ++ bs) ++ framesAhead t.mailbox) ∧
        (t.keeper ≠ .running → routed as <+: taken (as ++ bs))) ?_ ?_ hrest).2 hleft
  · refine ⟨fun _ => ?_, fun hleft => absurd hrunning hleft⟩
    rw [List.append_nil, framesAhead_eq_frames hmail,
      routed_eq hrun (mailboxOpen_of_running hrunning)]
  · intro cs u b v hcs hb ih
    have hmove := move_of_step hb
    rw [htaken hcs hb]
    constructor
    · intro hv
      apply (ih.1 (hmove.running hv)).trans
      rw [List.append_assoc, List.prefix_append_right_inj]
      exact hmove.ahead hv
    · intro hv
      by_cases hu : u.keeper = .running
      · have htook := ih.1 hu
        obtain ⟨-, -, rest, hmail⟩ := hmove.left hu hv
        have hnone : framesAhead u.mailbox = [] := by simp [hmail, framesAhead]
        rw [hnone, List.append_nil] at htook
        exact htook.trans (List.prefix_append _ _)
      · exact (ih.2 hu).trans (List.prefix_append _ _)

end ConsoleTap.Exchange
