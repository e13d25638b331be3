import ConsoleTap.Proofs.Exchange.Coherence

/-!
# Closing the exchange

Once the session has been marked closed, a shutdown is on its way to the keeper or
has reached it, and only then does the keeper leave its loop.  A registration whose
caller gave up on it is followed by its withdrawal as long as the keeper runs.  Both
facts tell what a settled state looks like: either the keeper still runs and its
mailbox is empty, or it has stopped and nothing is pending.
-/

namespace ConsoleTap.Exchange

open ConsoleTap.Json ConsoleTap.Target

variable {s t : State}

/-! ### The way of a shutdown -/

/-- The mark of a closed session and the shutdown go together. -/
structure Closing (s : State) : Prop where
  shut_closed : s.keeper ≠ .running → s.closed = true
  shutdown_closed : Message.shutdown ∈ s.mailbox → s.closed = true
  flagged_closed : CloserPhase.flagged ∈ s.closers → s.closed = true
  done_closed : CloserPhase.done ∈ s.closers → s.closed = true
  on_its_way : s.closed = true →
    s.keeper ≠ .running ∨ .shutdown ∈ s.mailbox ∨ .flagged ∈ s.closers
  asked : s.closed = true → s.closers ≠ []
  stopped_empty : s.keeper = .stopped → s.mailbox = [] ∧ s.pending = []

theorem closing_start : Closing {} := by
  constructor <;> simp

theorem mailboxOpen_of_running (h : s.keeper = .running) : s.mailboxOpen = true := by
  simp [State.mailboxOpen, h]

theorem mailboxOpen_eq_false_iff :
    s.mailboxOpen = false ↔ s.keeper = .draining ∨ s.keeper = .stopped := by
  cases h : s.keeper <;> simp [State.mailboxOpen, h]

theorem not_stopped_of_mailboxOpen (h : s.mailboxOpen = true) : s.keeper ≠ .stopped := by
  intro hstopped
  simp [State.mailboxOpen, hstopped] at h

/-- Everything that closing depends on but the messages for the keeper is the same, and the
    mailbox holds the same messages and perhaps others that are no shutdown. -/
theorem Closing.grow (h : Closing s) (hclosed : t.closed = s.closed)
    (hkeeper : t.keeper = s.keeper) (hclosers : t.closers = s.closers)
    (hpending : t.keeper = .stopped → t.pending = s.pending)
    (ms : List Message) (hmail : t.mailbox = s.mailbox ++ ms)
    (hms : Message.shutdown ∉ ms) (hstopped : s.keeper = .stopped → ms = []) : Closing t := by
  refine ⟨?_, ?_, ?_, ?_, ?_, ?_, ?_⟩
  · rw [hkeeper, hclosed]
    exact h.shut_closed
  · rw [hmail, hclosed, List.mem_append]
    rintro (hmem | hmem)
    · exact h.shutdown_closed hmem
    · exact absurd hmem hms
  · rw [hclosers, hclosed]
    exact h.flagged_closed
  · rw [hclosers, hclosed]
    exact h.done_closed
  · rw [hkeeper, hclosers, hclosed, hmail]
    intro hc
    rcases h.on_its_way hc with hk | hm | hf
    · exact Or.inl hk
    · exact Or.inr (Or.inl (List.mem_append_left _ hm))
    · exact Or.inr (Or.inr hf)
  · rw [hclosed, hclosers]
    exact h.asked
  · intro hk
    have hk' : s.keeper = .stopped := hkeeper ▸ hk
    obtain ⟨hempty, hnone⟩ := h.stopped_empty hk'
    exact ⟨by rw [hmail, hempty, hstopped hk']; rfl, (hpending hk).trans hnone⟩

theorem Closing.take (h : Closing s) (hclosed : t.closed = s.closed)
    (hkeeper : t.keeper = s.keeper) (hclosers : t.closers = s.closers)
    (hrunning : s.keeper = .running) {m : Message} (hmail : s.mailbox = m :: t.mailbox)
    (hm : m ≠ .shutdown) : Closing t := by
  refine ⟨?_, ?_, ?_, ?_, ?_, ?_, ?_⟩
  · rw [hkeeper, hclosed]
    exact h.shut_closed
  · intro hmem
    rw [hclosed]
    exact h.shutdown_closed (hmail ▸ List.mem_cons_of_mem _ hmem)
  · rw [hclosers, hclosed]
    exact h.flagged_closed
  · rw [hclosers, hclosed]
    exact h.done_closed
  · rw [hkeeper, hclosers, hclosed]
    intro hc
    rcases h.on_its_way hc with hk | hmem | hf
    · exact Or.inl hk
    · rw [hmail] at hmem
      rcases List.mem_cons.mp hmem with heq | hmem
      · exact absurd heq.symm hm
      · exact Or.inr (Or.inl hmem)
    · exact Or.inr (Or.inr hf)
  · rw [hclosed, hclosers]
    exact h.asked
  · intro hk
    rw [hkeeper, hrunning] at hk
    cases hk

theorem Closing.leave (h : Closing s) (hclosed : t.closed = s.closed)
    (hclosers : t.closers = s.closers) (hmark : s.closed = true) (hkeeper : t.keeper ≠ .running)
    (hstopped : t.keeper = .stopped → t.mailbox = [] ∧ t.pending = []) : Closing t := by
  refine ⟨?_, ?_, ?_, ?_, fun _ => Or.inl hkeeper, ?_, hstopped⟩
  · exact fun _ => hclosed.trans hmark
  · exact fun _ => hclosed.trans hmark
  · exact fun _ => hclosed.trans hmark
  · exact fun _ => hclosed.trans hmark
  · rw [hclosed, hclosers]
    exact h.asked

theorem Closing.closer (h : Closing s) {n : Nat} {a : Action} (ha : a = .closer n)
    (hmove : Move s a t) : Closing t := by
  cases hmove with
  | look hcloser =>
      rename_i m
      have hne : s.closers ≠ [] := by
        rintro heq
        simp [heq] at hcloser
      refine ⟨h.shut_closed, h.shutdown_closed, ?_, ?_, ?_, ?_, h.stopped_empty⟩
      · intro hmem
        rcases List.mem_or_eq_of_mem_set hmem with hmem | heq
        · exact h.flagged_closed hmem
        · split at heq <;> cases heq
      · intro hmem
        rcases List.mem_or_eq_of_mem_set hmem with hmem | heq
        · exact h.done_closed hmem
        · split at heq
          · assumption
          · cases heq
      · intro hc
        rcases h.on_its_way hc with hk | hm | hf
        · exact Or.inl hk
        · exact Or.inr (Or.inl hm)
        · obtain ⟨k, hk⟩ := List.mem_iff_getElem?.mp hf
          have hkm : m ≠ k := by
            rintro rfl
            rw [hcloser] at hk
            cases hk
          refine Or.inr (Or.inr (List.mem_iff_getElem?.mpr ⟨k, ?_⟩))
          rw [List.getElem?_set_ne hkm]
          exact hk
      · intro _ heq
        exact hne ((List.set_eq_nil_iff _ _).mp heq)
  | flag hcloser =>
      rename_i m
      have hm : m < s.closers.length := (List.getElem?_eq_some_iff.mp hcloser).1
      refine ⟨fun _ => rfl, fun _ => rfl, fun _ => rfl, fun _ => rfl, ?_, ?_, h.stopped_empty⟩
      · intro _
        exact Or.inr (Or.inr (List.mem_set hm .flagged))
      · intro _ heq
        rw [List.set_eq_nil_iff] at heq
        simp [heq] at hm
  | announce hcloser =>
      rename_i m
      have hmark : s.closed = true := h.flagged_closed (List.mem_of_getElem? hcloser)
      have hne : s.closers.set m .done ≠ [] := by
        intro heq
        rw [List.set_eq_nil_iff] at heq
        simp [heq] at hcloser
      cases hopen : s.mailboxOpen with
      | true =>
          have hpost : s.post .shutdown = { s with mailbox := s.mailbox ++ [.shutdown] } := by
            simp [State.post, hopen]
          rw [hpost]
          refine ⟨fun _ => hmark, fun _ => hmark, fun _ => hmark, fun _ => hmark, ?_,
            fun _ => hne, ?_⟩
          · intro _
            exact Or.inr (Or.inl (List.mem_append_right _ List.mem_cons_self))
          · intro hk
            exact absurd hk (not_stopped_of_mailboxOpen hopen)
      | false =>
          have hpost : s.post .shutdown = s := by simp [State.post, hopen]
          rw [hpost]
          refine ⟨fun _ => hmark, fun _ => hmark, fun _ => hmark, fun _ => hmark, ?_,
            fun _ => hne, h.stopped_empty⟩
          intro _
          rcases mailboxOpen_eq_false_iff.mp hopen with hk | hk <;>
            exact Or.inl (by simp [hk])
  | _ => cases ha

theorem Closing.same (h : Closing s) (hclosed : t.closed = s.closed)
    (hkeeper : t.keeper = s.keeper) (hclosers : t.closers = s.closers)
    (hpending : t.pending = s.pending) (hmail : t.mailbox = s.mailbox) : Closing t :=
  h.grow hclosed hkeeper hclosers (fun _ => hpending) [] (by rw [hmail, List.append_nil])
    List.not_mem_nil (fun _ => rfl)

theorem Closing.posted (h : Closing s) (hopen : s.mailboxOpen = true) {m : Message}
    (hclosed : t.closed = s.closed) (hkeeper : t.keeper = s.keeper)
    (hclosers : t.closers = s.closers) (hpending : t.pending = s.pending)
    (hmail : t.mailbox = s.mailbox ++ [m]) (hm : m ≠ .shutdown) : Closing t := by
  refine h.grow hclosed hkeeper hclosers (fun _ => hpending) [m] hmail ?_ ?_
  · simpa using hm.symm
  · intro hstopped
    exact absurd hstopped (not_stopped_of_mailboxOpen hopen)

theorem Closing.asks (h : Closing s) :
    Closing { s with closers := s.closers ++ [.asked] } := by
  refine ⟨h.shut_closed, h.shutdown_closed, ?_, ?_, ?_, ?_, h.stopped_empty⟩
  · intro hmem
    rcases List.mem_append.mp hmem with hmem | hmem
    · exact h.flagged_closed hmem
    · simp at hmem
  · intro hmem
    rcases List.mem_append.mp hmem with hmem | hmem
    · exact h.done_closed hmem
    · simp at hmem
  · intro hc
    rcases h.on_its_way hc with hk | hm | hf
    · exact Or.inl hk
    · exact Or.inr (Or.inl hm)
    · exact Or.inr (Or.inr (List.mem_append_left _ hf))
  · intro _
    simp

theorem Closing.move (h : Closing s) {a : Action} (hmove : Move s a t) : Closing t := by
  cases hmove with
  | begin method params limit => exact h.same rfl rfl rfl rfl rfl
  | ask => exact h.asks
  | route frame hopen => exact h.posted hopen rfl rfl rfl rfl rfl (by simp)
  | routeLate frame hshut => exact h.same rfl rfl rfl rfl rfl
  | leave => exact h.same rfl rfl rfl rfl rfl
  | tick ms => exact h.same rfl rfl rfl rfl rfl
  | letIn hcall hphase hclosed => exact h.same rfl rfl rfl rfl rfl
  | turnAway hcall hphase hclosed => exact h.same rfl rfl rfl rfl rfl
  | draw hcall hphase => exact h.same rfl rfl rfl rfl rfl
  | register hcall hphase hlimit hopen => exact h.posted hopen rfl rfl rfl rfl rfl (by simp)
  | registerLate hcall hphase hlimit hshut => exact h.same rfl rfl rfl rfl rfl
  | notify hcall hphase hlimit => exact h.same rfl rfl rfl rfl rfl
  | notifyRefused hcall hphase hlimit => exact h.same rfl rfl rfl rfl rfl
  | write hcall hphase => exact h.same rfl rfl rfl rfl rfl
  | writeRefused hcall hphase => exact h.same rfl rfl rfl rfl rfl
  | withdraw hcall hphase =>
      cases hopen : s.mailboxOpen with
      | true =>
          rw [State.post, if_pos hopen]
          exact h.posted hopen rfl rfl rfl rfl rfl (by simp)
      | false =>
          rw [State.post, hopen]
          exact h.same rfl rfl rfl rfl rfl
  | learn hcall hphase hword => exact h.same rfl rfl rfl rfl rfl
  | look hcloser => exact h.closer rfl (.look hcloser)
  | flag hcloser => exact h.closer rfl (.flag hcloser)
  | announce hcloser => exact h.closer rfl (.announce hcloser)
  | takeRequest hkeeper hmail => exact h.take rfl rfl rfl hkeeper hmail (by simp)
  | takeForget hkeeper hmail => exact h.take rfl rfl rfl hkeeper hmail (by simp)
  | takeReply hkeeper hmail hreply => exact h.take rfl rfl rfl hkeeper hmail (by simp)
  | takeEvent hkeeper hmail hreply hreader => exact h.take rfl rfl rfl hkeeper hmail (by simp)
  | dropEvent hkeeper hmail hreply hreader => exact h.take rfl rfl rfl hkeeper hmail (by simp)
  | takeShutdown hkeeper hmail =>
      have hmark : s.closed = true := h.shutdown_closed (by simp [hmail])
      exact h.leave rfl rfl hmark (by simp) (by simp)
  | expire hkeeper hoverdue =>
      rw [State.expireAll_eq]
      refine h.grow rfl rfl rfl ?_ [] (List.append_nil _).symm List.not_mem_nil
        (fun _ => rfl)
      intro hstopped
      exact absurd (hkeeper.symm.trans hstopped) (by simp)
  | shut hkeeper =>
      have hmark : s.closed = true := h.shut_closed (by simp [hkeeper])
      exact h.leave rfl rfl hmark (by simp) (by simp)
  | discardRequest hkeeper hmail =>
      have hmark : s.closed = true := h.shut_closed (by simp [hkeeper])
      exact h.leave rfl rfl hmark (by simp [hkeeper]) (by simp [hkeeper])
  | discardOther hkeeper hmail hother =>
      have hmark : s.closed = true := h.shut_closed (by simp [hkeeper])
      exact h.leave rfl rfl hmark (by simp [hkeeper]) (by simp [hkeeper])
  | stop hkeeper hmail =>
      have hmark : s.closed = true := h.shut_closed (by simp [hkeeper])
      rw [State.cancelAll_eq]
      exact h.leave rfl rfl hmark (by simp) (fun _ => ⟨hmail, rfl⟩)

theorem closing_of_run {as : List Action} (hrun : run? {} as = some s) : Closing s := by
  rw [run?_eq_follow] at hrun
  exact Run.follow_keeps (fun _ _ _ hstep h => Closing.move h (move_of_step hstep))
    closing_start hrun

/-! ### The way of a withdrawal -/

/-- The caller of the request is over after a failed write. -/
def State.GaveUp (s : State) (p : Pending) : Prop :=
  ∃ c cause, s.calls[p.call]? = some c ∧ c.phase = .done (.error (.transport cause))

/-- While the keeper runs, every registration that its caller gave up on is followed by its
    withdrawal. -/
structure Followed (s : State) : Prop where
  table : s.keeper = .running → ∀ p ∈ s.pending, s.GaveUp p → .forget p.id ∈ s.mailbox
  queued : s.keeper = .running → ∀ before p after,
    s.mailbox = before ++ .register p :: after → s.GaveUp p → .forget p.id ∈ after

theorem followed_start : Followed {} := by
  constructor <;> simp

/-- Messages are added to the mailbox, among them the withdrawals of whatever is given up. -/
theorem Followed.grow (h : Followed s) (hkeeper : t.keeper = s.keeper)
    (hpending : t.pending ⊆ s.pending) (ms : List Message) (hmail : t.mailbox = s.mailbox ++ ms)
    (hgave : s.keeper = .running → ∀ p ∈ s.tracked, t.GaveUp p → s.GaveUp p ∨ .forget p.id ∈ ms)
    (hnew : ∀ before p after, ms = before ++ .register p :: after → ¬ t.GaveUp p) :
    Followed t := by
  constructor
  · intro hrunning p hp hup
    rw [hkeeper] at hrunning
    rw [hmail, List.mem_append]
    rcases hgave hrunning p (mem_tracked_of_mem_pending (hpending hp)) hup with hup | hms
    · exact Or.inl (h.table hrunning p (hpending hp) hup)
    · exact Or.inr hms
  · intro hrunning before p after heq hup
    rw [hkeeper] at hrunning
    rw [hmail] at heq
    rcases List.append_eq_append_iff.mp heq with ⟨mid, hbefore, hms⟩ | ⟨mid, hold, hafter⟩
    · exact absurd hup (hnew mid p after hms)
    · cases mid with
      | nil =>
          rw [List.nil_append] at hafter
          exact absurd hup (hnew [] p after hafter.symm)
      | cons m mid =>
          rw [List.cons_append, List.cons.injEq] at hafter
          obtain ⟨rfl, rfl⟩ := hafter
          rw [List.mem_append]
          rcases hgave hrunning p (mem_tracked_of_queued (by simp [hold])) hup with hup | hms
          · exact Or.inl (h.queued hrunning before p mid hold hup)
          · exact Or.inr hms

theorem Followed.take (h : Followed s) {m : Message} (hrunning : s.keeper = .running)
    (hmail : s.mailbox = m :: t.mailbox)
    (hpending : ∀ p ∈ t.pending, (p ∈ s.pending ∧ m ≠ .forget p.id) ∨ m = .register p)
    (hgave : ∀ p, t.GaveUp p → s.GaveUp p) : Followed t := by
  constructor
  · intro _ p hp hup
    rcases hpending p hp with ⟨hold, hm⟩ | rfl
    · have hmem := h.table hrunning p hold (hgave p hup)
      rw [hmail] at hmem
      rcases List.mem_cons.mp hmem with heq | hmem
      · exact absurd heq.symm hm
      · exact hmem
    · exact h.queued hrunning [] p t.mailbox hmail (hgave p hup)
  · intro _ before p after heq hup
    exact h.queued hrunning (m :: before) p after (by rw [hmail, heq]; rfl) (hgave p hup)

theorem Followed.idle (hkeeper : t.keeper ≠ .running) : Followed t :=
  ⟨fun hrunning => absurd hrunning hkeeper, fun hrunning => absurd hrunning hkeeper⟩

theorem gaveUp_of_tell {words : List (Nat × Outcome)} (hcalls : t.calls = tell s.calls words)
    {p : Pending} (hup : t.GaveUp p) : s.GaveUp p := by
  obtain ⟨c, cause, hcall, hdone⟩ := hup
  rw [hcalls] at hcall
  obtain ⟨d, hd, heq⟩ := tell_frame hcall
  exact ⟨d, cause, hd, by rw [heq] at hdone; exact hdone⟩

/-- A caller that goes on gives up no tracked request, unless its write failed. -/
theorem gaveUp_of_rephase {n : Nat} {φ : Phase} {c : Call} (hcoherent : Coherent s.books)
    (hcall : s.calls[n]? = some c) (hcalls : t.calls = rephase s.calls n φ)
    (hφ : (∀ o, φ ≠ .done o) ∨ c.phase.isEarly = true ∨ c.word ≠ none) {p : Pending}
    (hp : p ∈ s.tracked) (hup : t.GaveUp p) : s.GaveUp p := by
  obtain ⟨d, cause, hd, hdone⟩ := hup
  rw [hcalls] at hd
  rcases rephase_cases hcall hd with ⟨rfl, rfl⟩ | ⟨-, hd⟩
  · rcases hφ with hφ | hearly | hword
    · exact absurd hdone (hφ _)
    · rw [hcoherent.not_early hp hcall] at hearly
      cases hearly
    · obtain ⟨e, he, hnone, -⟩ := hcoherent.tracked_call p hp
      have hce : some c = some e := hcall.symm.trans he
      obtain rfl := Option.some.inj hce
      exact absurd hnone hword
  · exact ⟨d, cause, hd, hdone⟩

theorem Followed.rephase (h : Followed s) {n : Nat} {φ : Phase} {c : Call}
    (hcoherent : Coherent s.books) (hcall : s.calls[n]? = some c)
    (hcalls : t.calls = rephase s.calls n φ)
    (hφ : (∀ o, φ ≠ .done o) ∨ c.phase.isEarly = true ∨ c.word ≠ none)
    (hkeeper : t.keeper = s.keeper) (hpending : t.pending = s.pending)
    (hmail : t.mailbox = s.mailbox) : Followed t := by
  refine h.grow hkeeper (hpending ▸ List.Subset.refl _) [] (by simp [hmail]) ?_ (by simp)
  intro _ p hp hup
  exact Or.inl (gaveUp_of_rephase hcoherent hcall hcalls hφ hp hup)

theorem Followed.posted (h : Followed s) (hcalls : t.calls = s.calls)
    (hkeeper : t.keeper = s.keeper) (hpending : t.pending = s.pending) {ms : List Message}
    (hmail : t.mailbox = s.mailbox ++ ms) (hms : requests ms = []) : Followed t := by
  refine h.grow hkeeper (hpending ▸ List.Subset.refl _) ms hmail ?_ ?_
  · rintro - p - ⟨c, cause, hcall, hdone⟩
    rw [hcalls] at hcall
    exact Or.inl ⟨c, cause, hcall, hdone⟩
  · intro before p after heq
    simp [heq] at hms

/-- Every move keeps a withdrawal behind its registration. -/
theorem Followed.move (h : Followed s) (hcoherent : Coherent s.books) {a : Action}
    (hmove : Move s a t) : Followed t := by
  cases hmove with
  | begin method params limit =>
      refine h.grow rfl (List.Subset.refl _) [] (List.append_nil _).symm ?_ (by simp)
      rintro - p hp ⟨c, cause, hcall, hdone⟩
      obtain ⟨d, hd, -⟩ := hcoherent.tracked_call p hp
      have hlt : p.call < s.calls.length := (List.getElem?_eq_some_iff.mp hd).1
      rw [List.getElem?_append_left hlt] at hcall
      exact Or.inl ⟨c, cause, hcall, hdone⟩
  | ask => exact h.posted rfl rfl rfl (List.append_nil _).symm rfl
  | route frame hopen => exact h.posted rfl rfl rfl rfl rfl
  | routeLate frame hshut => exact h.posted rfl rfl rfl (List.append_nil _).symm rfl
  | leave => exact h.posted rfl rfl rfl (List.append_nil _).symm rfl
  | tick ms => exact h.posted rfl rfl rfl (List.append_nil _).symm rfl
  | letIn hcall hphase hclosed =>
      exact h.rephase hcoherent hcall rfl (Or.inl (by simp)) rfl rfl rfl
  | turnAway hcall hphase hclosed =>
      exact h.rephase hcoherent hcall rfl (Or.inr (Or.inl (by simp [hphase, Phase.isEarly])))
        rfl rfl rfl
  | draw hcall hphase =>
      exact h.rephase hcoherent hcall rfl (Or.inl (by simp)) rfl rfl rfl
  | register hcall hphase hlimit hopen =>
      refine h.grow rfl (List.Subset.refl _) _ rfl ?_ ?_
      · intro _ p hp hup
        exact Or.inl (gaveUp_of_rephase hcoherent hcall rfl (Or.inl (by simp)) hp hup)
      · rintro before p after heq ⟨d, cause, hd, hdone⟩
        have hp : Message.register p ∈ before ++ .register p :: after :=
          List.mem_append_right _ List.mem_cons_self
        rw [← heq, List.mem_singleton, Message.register.injEq] at hp
        subst hp
        have hrephase : some d = some _ := hd.symm.trans (getElem?_rephase_self hcall)
        obtain rfl := Option.some.inj hrephase
        cases hdone
  | registerLate hcall hphase hlimit hshut =>
      exact h.rephase hcoherent hcall rfl (Or.inr (Or.inl (by simp [hphase, Phase.isEarly])))
        rfl rfl rfl
  | notify hcall hphase hlimit =>
      exact h.rephase hcoherent hcall rfl (Or.inr (Or.inl (by simp [hphase, Phase.isEarly])))
        rfl rfl rfl
  | notifyRefused hcall hphase hlimit =>
      exact h.rephase hcoherent hcall rfl (Or.inr (Or.inl (by simp [hphase, Phase.isEarly])))
        rfl rfl rfl
  | write hcall hphase =>
      exact h.rephase hcoherent hcall rfl (Or.inl (by simp)) rfl rfl rfl
  | writeRefused hcall hphase =>
      exact h.rephase hcoherent hcall rfl (Or.inl (by simp)) rfl rfl rfl
  | withdraw hcall hphase =>
      rename_i n id c cause refusal
      cases hopen : s.mailboxOpen with
      | true =>
          rw [State.post, if_pos hopen]
          refine h.grow rfl (List.Subset.refl _) [.forget id] rfl ?_ ?_
          · rintro - p hp ⟨d, cause', hd, hdone⟩
            rcases rephase_cases hcall hd with ⟨rfl, rfl⟩ | ⟨-, hd⟩
            · -- the request that this caller gives up on is the one that it withdraws
              obtain ⟨e, he, -, howns⟩ := hcoherent.tracked_call p hp
              have hce : some c = some e := hcall.symm.trans he
              obtain rfl := Option.some.inj hce
              rcases howns with hheld | ⟨_, hover⟩
              · simp only [hphase, Phase.heldId?, Option.some.injEq] at hheld
                simp [hheld]
              · rw [hphase] at hover
                cases hover
            · exact Or.inl ⟨d, cause', hd, hdone⟩
          · intro before p after heq
            have hp : Message.register p ∈ before ++ .register p :: after :=
              List.mem_append_right _ List.mem_cons_self
            simp [← heq] at hp
      | false =>
          apply Followed.idle
          rw [State.post, hopen]
          rcases mailboxOpen_eq_false_iff.mp hopen with hk | hk <;>
            simp [State.setPhase, State.updateCall, hk]
  | learn hcall hphase hword =>
      exact h.rephase hcoherent hcall rfl (Or.inr (Or.inr (by simp [hword]))) rfl rfl rfl
  | look hcloser => exact h.posted rfl rfl rfl (List.append_nil _).symm rfl
  | flag hcloser => exact h.posted rfl rfl rfl (List.append_nil _).symm rfl
  | announce hcloser =>
      cases hopen : s.mailboxOpen with
      | true =>
          rw [State.post, if_pos hopen]
          exact h.posted rfl rfl rfl rfl rfl
      | false =>
          rw [State.post, hopen]
          exact h.posted rfl rfl rfl (List.append_nil _).symm rfl
  | takeRequest hkeeper hmail =>
      refine h.take hkeeper hmail ?_ (fun _ hup => hup)
      intro q hq
      rcases List.mem_append.mp hq with hq | hq
      · exact Or.inl ⟨List.mem_of_mem_filter hq, by simp⟩
      · exact Or.inr (by rw [List.mem_singleton.mp hq])
  | takeForget hkeeper hmail =>
      refine h.take hkeeper hmail ?_ (fun _ hup => hup)
      intro q hq
      obtain ⟨hq, hid⟩ := List.mem_filter.mp hq
      simp only [decide_eq_true_eq] at hid
      exact Or.inl ⟨hq, by simpa using Ne.symm hid⟩
  | takeReply hkeeper hmail hreply =>
      refine h.take hkeeper hmail ?_ (fun _ hup => gaveUp_of_tell rfl hup)
      intro q hq
      exact Or.inl ⟨List.mem_of_mem_filter hq, by simp⟩
  | takeEvent hkeeper hmail hreply hreader =>
      exact h.take hkeeper hmail (fun q hq => Or.inl ⟨hq, by simp⟩) (fun _ hup => hup)
  | dropEvent hkeeper hmail hreply hreader =>
      exact h.take hkeeper hmail (fun q hq => Or.inl ⟨hq, by simp⟩) (fun _ hup => hup)
  | takeShutdown hkeeper hmail => exact .idle (by simp)
  | expire hkeeper hoverdue =>
      rw [State.expireAll_eq]
      refine h.grow rfl (State.withoutAll_sublist _ _).subset []
        (List.append_nil _).symm ?_ (by simp)
      intro _ p _ hup
      exact Or.inl (gaveUp_of_tell rfl hup)
  | shut hkeeper => exact .idle (by simp)
  | discardRequest hkeeper hmail => exact .idle (by simp [hkeeper])
  | discardOther hkeeper hmail hother => exact .idle (by simp [hkeeper])
  | stop hkeeper hmail => exact .idle (by simp [State.cancelAll_eq])

theorem followed_of_run {as : List Action} (hrun : run? {} as = some s) : Followed s := by
  rw [run?_eq_follow] at hrun
  have hboth : Coherent s.books ∧ Followed s :=
    Run.follow_keeps (P := fun s => Coherent s.books ∧ Followed s)
      (fun _ _ _ hstep h => ⟨h.1.step hstep, h.2.move h.1 (move_of_step hstep)⟩)
      ⟨coherent_start, followed_start⟩ hrun
  exact hboth.2

end ConsoleTap.Exchange
