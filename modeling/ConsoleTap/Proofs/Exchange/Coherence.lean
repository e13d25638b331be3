import ConsoleTap.Proofs.Exchange.Books

/-!
# Coherence of the exchange

Every move of the exchange makes at most one entry in the books, so the books are
coherent in every state that a run leads to, whatever the order in which callers,
closers and the keeper act.
-/

namespace ConsoleTap.Exchange

open ConsoleTap.Json ConsoleTap.Target

variable {s t : State}

/-! ### Tracked requests are told apart by id and by caller -/

theorem Coherent.eq_of_id {b : Books} (h : Coherent b) {p q : Pending} (hp : p ∈ b.tracked)
    (hq : q ∈ b.tracked) (hid : p.id = q.id) : p = q :=
  List.inj_on_of_nodup_map h.ids_nodup hp hq hid

theorem Coherent.eq_of_call {b : Books} (h : Coherent b) {p q : Pending} (hp : p ∈ b.tracked)
    (hq : q ∈ b.tracked) (hcall : p.call = q.call) : p = q :=
  List.inj_on_of_nodup_map h.calls_nodup hp hq hcall

theorem mem_tracked_of_mem_pending {p : Pending} (hp : p ∈ s.pending) : p ∈ s.tracked :=
  List.mem_append_left _ hp

theorem mem_tracked_of_queued {p : Pending} (hp : .register p ∈ s.mailbox) : p ∈ s.tracked :=
  List.mem_append_right _ (mem_requests.mpr hp)

theorem without_eq_self {ps : List Pending} {id : Nat} (h : ∀ p ∈ ps, p.id ≠ id) :
    without ps id = ps := by
  rw [without, List.filter_eq_self]
  intro p hp
  simpa using h p hp

theorem Coherent.pending_ne_queued (h : Coherent s.books) {p q : Pending} (hp : p ∈ s.pending)
    (hq : q ∈ requests s.mailbox) : p.id ≠ q.id := by
  have hnodup := h.ids_nodup
  simp only [State.books, State.tracked, List.map_append, List.nodup_append] at hnodup
  exact hnodup.2.2 p.id (List.mem_map_of_mem hp) q.id (List.mem_map_of_mem hq)

/-! ### The entry of a move -/

/-- Words to callers of pending requests, which leave the table with them. -/
theorem Coherent.entry_resolve (h : Coherent s.books) (ps : List Pending)
    (words : List (Nat × Outcome)) (hps : List.Sublist ps s.pending)
    (hwords : words.map Prod.fst = ps.map Pending.call) :
    Entry s.books
      { s.books with
        calls := tell s.calls words
        tracked := State.withoutAll s.pending ps ++ requests s.mailbox
        answered := s.answered ++ words.map Prod.fst } := by
  refine Entry.tell _ words ((State.withoutAll_sublist _ _).append_right _) ?_ ?_ ?_
  · rw [hwords]
    exact h.calls_nodup.sublist ((hps.trans (List.sublist_append_left _ _)).map _)
  · rw [hwords]
    intro n hn
    obtain ⟨p, hp, rfl⟩ := List.mem_map.mp hn
    exact ⟨p, mem_tracked_of_mem_pending (hps.subset hp), rfl⟩
  · rw [hwords]
    intro q hq
    constructor
    · -- whoever stays is none of those that leave, so its caller is another one
      intro hstays hn
      obtain ⟨p, hp, hcall⟩ := List.mem_map.mp hn
      have hpq : p = q :=
        h.eq_of_call (mem_tracked_of_mem_pending (hps.subset hp)) hq hcall
      subst hpq
      rcases List.mem_append.mp hstays with hstays | hqueued
      · exact (State.mem_withoutAll.mp hstays).2 p hp rfl
      · exact h.pending_ne_queued (hps.subset hp) hqueued rfl
    · intro hn
      rcases List.mem_append.mp hq with hpending | hqueued
      · refine List.mem_append_left _ (State.mem_withoutAll.mpr ⟨hpending, ?_⟩)
        intro p hp hid
        have hpq : q = p := h.eq_of_id hq (mem_tracked_of_mem_pending (hps.subset hp)) hid
        exact hn (hpq ▸ List.mem_map_of_mem hp)
      · exact List.mem_append_right _ hqueued

theorem Coherent.tracked_takeRequest (h : Coherent s.books) {p : Pending} {rest : List Message}
    (hmail : s.mailbox = .register p :: rest) :
    (without s.pending p.id ++ [p]) ++ requests rest = s.tracked := by
  have hne : ∀ q ∈ s.pending, q.id ≠ p.id := by
    intro q hq
    exact h.pending_ne_queued hq (by simp [hmail])
  rw [without_eq_self hne]
  simp [State.tracked, hmail]

/-- What changes nothing that is in the books makes no entry. -/
theorem Entry.of_books_eq (h : t.books = s.books) : Entry s.books t.books := by
  rw [h]
  exact .none

/-- A registration taken back after a failed write; a closed mailbox has none to take back. -/
theorem entry_withdraw {n id : Nat} {c : Call} {cause : TransportFault}
    (hcall : s.calls[n]? = some c) (hphase : c.phase = .refused id cause) :
    Entry s.books ((s.post (.forget id)).setPhase n (.done (.error (.transport cause)))).books := by
  by_cases hopen : s.mailboxOpen
  · have hentry := Entry.withdraw (b := s.books) hcall hphase
    simpa [State.books, State.tracked, State.post, hopen, State.setPhase, State.updateCall,
      rephase] using hentry
  · have hadvances : Advances c (.done (.error (.transport cause))) := by
      constructor <;> simp [hphase, Phase.id?, Phase.heldId?, Phase.isEarly]
    have hentry := Entry.advance (b := s.books) hcall hadvances
    simpa [State.books, State.tracked, State.post, hopen, State.setPhase, State.updateCall,
      rephase] using hentry

theorem books_announce (n : Nat) :
    State.books { s.post .shutdown with closers := s.closers.set n .done } = s.books := by
  by_cases hopen : s.mailboxOpen <;> simp [State.books, State.tracked, State.post, hopen]

theorem Coherent.books_takeRequest (h : Coherent s.books) {p : Pending} {rest : List Message}
    (hmail : s.mailbox = .register p :: rest) :
    State.books ({ s with mailbox := rest, pending := without s.pending p.id ++ [p] }.note
      (.tracking p.id p.method)) = s.books := by
  have htracked := h.tracked_takeRequest hmail
  simp only [State.books, State.note, State.tracked] at htracked ⊢
  rw [htracked]
  simp [hmail]

/-- The keeper carries a withdrawal out. -/
theorem entry_takeForget {id : Nat} {rest : List Message} (hmail : s.mailbox = .forget id :: rest) :
    Entry s.books (State.books { s with mailbox := rest, pending := without s.pending id }) := by
  refine Entry.forget (b := s.books) (without s.pending id ++ requests rest) (withdrawals rest)
    ?_ ?_ ?_
  · simp only [State.books, State.tracked, hmail, requests_forget]
    exact List.filter_sublist.append_right _
  · intro p hp
    simp only [State.books, State.tracked, hmail, requests_forget, withdrawals_forget,
      List.mem_append, without, List.mem_filter, List.mem_cons] at hp ⊢
    by_cases hid : p.id = id
    · exact Or.inr (Or.inl hid)
    · rcases hp with hp | hp
      · exact Or.inl (Or.inl ⟨hp, by simpa using hid⟩)
      · exact Or.inl (Or.inr hp)
  · simp [State.books, hmail]

theorem Coherent.entry_takeReply (h : Coherent s.books) {frame : Value} {p : Pending}
    {rest : List Message} (hmail : s.mailbox = .frame frame :: rest)
    (hreply : s.awaited? frame = some p) :
    Entry s.books
      (State.books
        { s with
          mailbox := rest
          pending := without s.pending p.id
          calls := tell s.calls [(p.call, Outcome.ofReply frame)]
          answered := s.answered ++ [p.call]
          log := s.log ++ [.answered p.id p.method (.ofMillis (s.now - p.begunAt))] }) := by
  have hp := (State.awaited?_eq_some hreply).1
  have hentry := h.entry_resolve [p] [(p.call, Outcome.ofReply frame)]
    (List.singleton_sublist.mpr hp) rfl
  simpa [State.books, State.tracked, State.withoutAll, hmail] using hentry

theorem Coherent.entry_expire (h : Coherent s.books) : Entry s.books s.expireAll.books := by
  have hentry := h.entry_resolve s.overdue (State.timeouts s.overdue)
    List.filter_sublist (State.map_fst_timeouts _)
  rw [State.expireAll_eq]
  simpa [State.books, State.tracked] using hentry

/-- The request whose registration comes first in the mailbox is none of those in the table or
    behind it. -/
theorem Coherent.first_not_mem (h : Coherent s.books) {p : Pending} {rest : List Message}
    (hmail : s.mailbox = .register p :: rest) : p ∉ s.pending ++ requests rest := by
  have hnodup := h.ids_nodup
  simp only [State.books, State.tracked, hmail, requests_register, List.map_append, List.map_cons,
    List.nodup_append, List.nodup_cons] at hnodup
  intro hmem
  rcases List.mem_append.mp hmem with hmem | hmem
  · exact hnodup.2.2 _ (List.mem_map_of_mem hmem) _ List.mem_cons_self rfl
  · exact hnodup.2.1.1 (List.mem_map_of_mem hmem)

/-- A registration discarded on the way out: its caller is told that it is cancelled. -/
theorem Coherent.entry_discardRequest (h : Coherent s.books) {p : Pending} {rest : List Message}
    (hmail : s.mailbox = .register p :: rest) :
    Entry s.books
      (State.books
        { s with
          mailbox := rest
          calls := tell s.calls [(p.call, .error .cancelled)]
          answered := s.answered ++ [p.call] }) := by
  have htracked : s.tracked = s.pending ++ p :: requests rest := by simp [State.tracked, hmail]
  have hp : p ∈ s.tracked := by simp [htracked]
  have hsame : withdrawals s.mailbox = withdrawals rest := by simp [hmail]
  have hentry := Entry.tell (b := s.books) (s.pending ++ requests rest)
    [(p.call, .error .cancelled)]
  simp only [State.books, hsame] at hentry ⊢
  refine hentry ?_ (by simp) ?_ ?_
  · rw [htracked]
    exact (List.sublist_cons_self _ _).append_left _
  · intro n hn
    obtain rfl : n = p.call := by simpa using hn
    exact ⟨p, hp, rfl⟩
  · intro q hq
    constructor
    · intro hmem hn
      obtain hcall : q.call = p.call := by simpa using hn
      obtain rfl : q = p := h.eq_of_call hq hp hcall
      exact h.first_not_mem hmail hmem
    · intro hn
      rw [htracked] at hq
      rcases List.mem_append.mp hq with hq | hq
      · exact List.mem_append_left _ hq
      · rcases List.mem_cons.mp hq with rfl | hq
        · simp at hn
        · exact List.mem_append_right _ hq

theorem entry_discardOther {m : Message} {rest : List Message} (hmail : s.mailbox = m :: rest)
    (hother : ∀ p, m ≠ .register p) : Entry s.books (State.books { s with mailbox := rest }) := by
  have hqueued : requests s.mailbox = requests rest := by
    cases m with
    | register p => exact absurd rfl (hother p)
    | forget id => simp [hmail]
    | frame frame => simp [hmail]
    | shutdown => simp [hmail]
  have hentry := Entry.forget (b := s.books) s.tracked (withdrawals rest) (List.Sublist.refl _)
    (fun p hp => Or.inl hp) ?_
  · simpa [State.books, State.tracked, hqueued] using hentry
  · intro id hid
    rw [mem_withdrawals] at hid
    simp only [State.books, hmail, mem_withdrawals]
    exact List.mem_cons_of_mem _ hid

theorem Coherent.entry_stop (h : Coherent s.books) : Entry s.books s.cancelAll.books := by
  have hentry := h.entry_resolve s.pending (State.cancellations s.pending) (List.Sublist.refl _)
    (State.map_fst_cancellations _)
  have hall : State.withoutAll s.pending s.pending = [] := by
    rw [List.eq_nil_iff_forall_not_mem]
    intro p hp
    obtain ⟨hmem, hne⟩ := State.mem_withoutAll.mp hp
    exact hne p hmem rfl
  rw [State.cancelAll_eq]
  simpa [State.books, State.tracked, hall] using hentry

/-- A move makes one entry in the books, or none. -/
theorem Coherent.entry_of_move (h : Coherent s.books) {a : Action} (hmove : Move s a t) :
    Entry s.books t.books := by
  cases hmove with
  | begin method params limit => exact .begin _ rfl rfl
  | ask => exact .none
  | route frame hopen => exact .of_books_eq (by simp [State.books, State.tracked])
  | routeLate frame hshut => exact .none
  | leave => exact .none
  | tick ms => exact .none
  | letIn hcall hphase hclosed =>
      apply Entry.advance hcall
      constructor <;> simp [hphase, Phase.id?, Phase.heldId?, Phase.isEarly]
  | turnAway hcall hphase hclosed =>
      apply Entry.advance hcall
      constructor <;> simp [hphase, Phase.id?, Phase.heldId?, Phase.isEarly]
  | draw hcall hphase => exact .draw hcall hphase
  | register hcall hphase hlimit hopen =>
      rename_i n id limit c refusal
      have hentry := Entry.register (b := s.books) (n := n) hcall
        (p := ⟨id, n, c.method, s.now, s.now + limit⟩) hphase rfl
      simpa [State.books, State.tracked, State.setPhase, State.updateCall, rephase] using hentry
  | registerLate hcall hphase hlimit hshut =>
      apply Entry.advance hcall
      constructor <;> simp [hphase, Phase.id?, Phase.heldId?, Phase.isEarly]
  | notify hcall hphase hlimit =>
      apply Entry.advance hcall
      constructor <;> simp [hphase, Phase.id?, Phase.heldId?, Phase.isEarly]
  | notifyRefused hcall hphase hlimit =>
      apply Entry.advance hcall
      constructor <;> simp [hphase, Phase.id?, Phase.heldId?, Phase.isEarly]
  | write hcall hphase =>
      apply Entry.advance hcall
      constructor <;> simp [hphase, Phase.id?, Phase.heldId?, Phase.isEarly]
  | writeRefused hcall hphase =>
      apply Entry.advance hcall
      constructor <;> simp [hphase, Phase.id?, Phase.heldId?, Phase.isEarly]
  | withdraw hcall hphase => exact entry_withdraw hcall hphase
  | learn hcall hphase hword =>
      apply Entry.advance hcall
      constructor <;> simp [hphase, hword, Phase.id?, Phase.heldId?, Phase.isEarly]
  | look hcloser => exact .none
  | flag hcloser => exact .none
  | announce hcloser => exact .of_books_eq (books_announce _)
  | takeRequest hkeeper hmail => exact .of_books_eq (h.books_takeRequest hmail)
  | takeForget hkeeper hmail => exact entry_takeForget hmail
  | takeReply hkeeper hmail hreply => exact h.entry_takeReply hmail hreply
  | takeEvent hkeeper hmail hreply hreader =>
      exact .of_books_eq (by simp [State.books, State.tracked, hmail])
  | dropEvent hkeeper hmail hreply hreader =>
      exact .of_books_eq (by simp [State.books, State.tracked, State.note, hmail])
  | takeShutdown hkeeper hmail => exact .of_books_eq (by simp [State.books, State.tracked, hmail])
  | expire hkeeper hoverdue => exact h.entry_expire
  | shut hkeeper => exact .none
  | discardRequest hkeeper hmail => exact h.entry_discardRequest hmail
  | discardOther hkeeper hmail hother => exact entry_discardOther hmail hother
  | stop hkeeper hmail => exact h.entry_stop

/-! ### Coherence in every state -/

theorem Coherent.step (h : Coherent s.books) {a : Action} (hstep : step? s a = some t) :
    Coherent t.books :=
  h.entry (h.entry_of_move (move_of_step hstep))

theorem run?_eq_follow (s : State) (as : List Action) : run? s as = Run.follow step? s as := by
  induction as generalizing s with
  | nil => rfl
  | cons a rest ih => simp only [run?, Run.follow, ih]

theorem run?_append (s : State) (as bs : List Action) :
    run? s (as ++ bs) = (run? s as).bind fun t => run? t bs := by
  simp only [run?_eq_follow, Run.follow_append]

theorem coherent_of_run {as : List Action} (hrun : run? {} as = some s) : Coherent s.books := by
  rw [run?_eq_follow] at hrun
  exact Run.follow_keeps (P := fun s => Coherent s.books) (fun _ _ _ hstep h => h.step hstep)
    coherent_start hrun

end ConsoleTap.Exchange
