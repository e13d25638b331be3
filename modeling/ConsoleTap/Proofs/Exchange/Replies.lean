import ConsoleTap.Proofs.Exchange.Cutoff
import ConsoleTap.Proofs.Target.ReplyErrors

/-!
# What a reply means

The frame that resolves a pending request decides how the request ends, by two of its
members.  With an `error` it fails, whatever the `error` is and even beside a `result`; what
the `error` spells is passed on, and what spells nothing is passed on as its own text.  Without
one it succeeds, with the `result` or `null`.

The keeper gives this outcome to the caller as its word.  The caller ends with it, unless the
channel refused the command: then the reply answers what the caller believes was never sent.
-/

namespace ConsoleTap.Exchange

open ConsoleTap.Json ConsoleTap.Target

variable {s t : State} {a : Action} {as : List Action} {n : Nat} {p : Pending} {m : Moment}
  {frame e : Value} {o : Outcome}

/-! ### The outcome that a reply stands for -/

theorem ofReply_of_no_error (h : frame.get? "error" = none) :
    Outcome.ofReply frame = .ok ((frame.get? "result").getD .null) := by
  rw [Outcome.ofReply, h]

theorem ofReply_of_spelled (h : frame.get? "error" = some e) (hdistinct : frame.Distinct)
    {code : Int} {message : String} (hspells : SpellsError e code message) :
    Outcome.ofReply frame = .error (.protocol code message) := by
  obtain ⟨r, hr, rfl, rfl⟩ := (readReplyError_ok_iff (hdistinct.get? h)).mpr hspells
  simp only [Outcome.ofReply, h, hr]

theorem ofReply_of_unspelled (h : frame.get? "error" = some e) (hdistinct : frame.Distinct)
    (hspells : ∀ code message, ¬ SpellsError e code message) :
    Outcome.ofReply frame = .error (.protocol 0 e.compact) := by
  simp only [Outcome.ofReply, h]
  cases hread : readReplyError e with
  | error cause => rfl
  | ok r =>
      have hr := (readReplyError_ok_iff (hdistinct.get? h)).mp ⟨r, hread, rfl, rfl⟩
      exact absurd hr (hspells r.code r.message)

theorem ofReply_error_iff : (∃ fault, Outcome.ofReply frame = .error fault) ↔
    ∃ e, frame.get? "error" = some e := by
  cases h : frame.get? "error" with
  | none => simp [ofReply_of_no_error h]
  | some e =>
      refine iff_of_true ?_ ⟨e, rfl⟩
      simp only [Outcome.ofReply, h]
      split <;> exact ⟨_, rfl⟩

/-! ### From the keeper's word to the outcome -/

/-- The caller of that number has been registered and has got that word, and if it is over it has
    ended with the word or with the channel's refusal. -/
def State.Resolved (s : State) (n : Nat) (o : Outcome) : Prop :=
  ∃ c, s.calls[n]? = some c ∧ c.word = some o ∧ c.phase.isEarly = false ∧
    ∀ o', c.phase = .done o' → o' = o ∨ ∃ cause, o' = .error (.transport cause)

theorem State.Resolved.step (h : s.Resolved n o) (hcoherent : Coherent s.books)
    (hstep : step? s a = some t) : t.Resolved n o := by
  obtain ⟨c, hcall, hword, hlate, hends⟩ := h
  obtain ⟨c', hcall', hword'⟩ := State.Told.step ⟨c, hcall, hword⟩ hcoherent hstep
  obtain ⟨d, hd, hprogress⟩ := (move_of_step hstep).progress hcall
  obtain rfl := Option.some.inj (hcall'.symm.trans hd)
  refine ⟨c', hcall', hword', ?_⟩
  cases hprogress with
  | withdraw hphase => exact ⟨rfl, fun o' ho' => Or.inr ⟨_, (Phase.done.inj ho').symm⟩⟩
  | learn hphase hlearnt =>
      obtain rfl := Option.some.inj (hword.symm.trans hlearnt)
      exact ⟨rfl, fun o' ho' => Or.inl (Phase.done.inj ho').symm⟩
  | _ => simp_all [Phase.isEarly]

theorem Occurs.resolved_of_answers (hm : Occurs as m)
    (hanswers : Answers p frame m.state m.action) :
    m.next.Resolved p.call (Outcome.ofReply frame) := by
  have hp := (State.awaited?_eq_some hanswers.2).1
  obtain ⟨c, hcall, hnone, howns⟩ := hm.coherent.tracked_call p (mem_tracked_of_mem_pending hp)
  obtain ⟨c', hcall', hword⟩ := hm.told_of_answers hanswers
  obtain ⟨d, hd, hprogress⟩ := hm.move.progress hcall
  obtain rfl := Option.some.inj (hcall'.symm.trans hd)
  refine ⟨c', hcall', hword, ?_⟩
  have hphase : c'.phase = c.phase := by
    rw [hanswers.1.1] at hprogress
    cases hprogress <;> rfl
  rw [hphase]
  rcases howns with hheld | ⟨cause, hdone⟩
  · cases hc : c.phase <;> simp_all [Phase.heldId?, Phase.isEarly]
  · simp [hdone, Phase.isEarly]

/-- Whose request was resolved by a reply ends with what the reply stands for, unless the channel
    refused its command. -/
theorem Occurs.ends_of_answers (hm : Occurs as m) (hanswers : Answers p frame m.state m.action)
    (hrun : run? {} as = some s) (ho : s.outcome? p.call = some o) :
    o = Outcome.ofReply frame ∨
      ∃ cause, Happens as (Writes p.call p.id (some cause)) ∧ o = .error (.transport cause) := by
  have hp := (State.awaited?_eq_some hanswers.2).1
  have hfollow := hrun
  rw [run?_eq_follow] at hfollow
  obtain ⟨-, c, hcall, -, -, hends⟩ := Run.Moment.In.lasts_to_end
    (P := fun u => Coherent u.books ∧ u.Resolved p.call (Outcome.ofReply frame))
    (fun _ _ _ hstep h => ⟨h.1.step hstep, h.2.step h.1 hstep⟩) hm hfollow
    ⟨hm.coherent.step hm.2.2, hm.resolved_of_answers hanswers⟩
  obtain ⟨d, hd, hdone⟩ := done_of_outcome? ho
  obtain rfl := Option.some.inj (hcall.symm.trans hd)
  refine (hends o hdone).imp_right ?_
  rintro ⟨cause, rfl⟩
  -- only a request is registered, and of a request a transport error has but one cause
  obtain ⟨r, hr, d, _, limit, -, hd, -, hlimit, -⟩ :=
    registered_of_tracked hm.run (mem_tracked_of_mem_pending hp)
  have hkept := ((hm.earlier hr).1.call_kept hrun hd hcall).1
  obtain ⟨id, hrefused⟩ := refused_of_outcome hrun hcall (hkept.trans hlimit) hdone
  obtain rfl := hrefused.drawn_of_write.id_unique (hm.drawn_of_pending hp)
  exact ⟨cause, hrefused, rfl⟩

/-- When nobody can act, whoever got word has an outcome. -/
theorem Settled.exists_outcome_of_told (h : Settled s) (htold : s.Told n o) :
    ∃ o', s.outcome? n = some o' := by
  obtain ⟨c, hcall, hword⟩ := htold
  rcases h.call hcall with ⟨o', hdone⟩ | ⟨_, -, hnone⟩
  · exact ⟨o', outcome?_of_done hcall hdone⟩
  · rw [hword] at hnone
    cases hnone

/-! ### What a reply means -/

/-- The frame that resolves a request fixes the keeper's word about it, and the caller ends with
    this word unless the channel refused the command.  The word is an error exactly if the frame has
    an `error`, and otherwise the frame's `result`, or `null` if it has none.  What the `error`
    spells is the code and the message of the word; an `error` that spells nothing gets the code
    zero, and its own text for the message. -/
theorem meaning_of_reply (hm : Occurs as m) (hanswers : Answers p frame m.state m.action)
    (hdistinct : frame.Distinct) :
    ∃ o, m.next.Told p.call o ∧
      (∀ s, run? {} as = some s →
        (∀ o', s.outcome? p.call = some o' → o' = o ∨
          ∃ cause, Happens as (Writes p.call p.id (some cause)) ∧
            o' = .error (.transport cause)) ∧
        (Settled s → ∃ o', s.outcome? p.call = some o')) ∧
      ((∃ fault, o = .error fault) ↔ ∃ e, frame.get? "error" = some e) ∧
      (∀ fault, o = .error fault → ∃ code message, fault = .protocol code message) ∧
      (frame.get? "error" = none →
        (∀ v, frame.get? "result" = some v → o = .ok v) ∧
        (frame.get? "result" = none → o = .ok .null)) ∧
      ∀ e, frame.get? "error" = some e →
        (∀ code message, SpellsError e code message → o = .error (.protocol code message)) ∧
        ((∀ code message, ¬ SpellsError e code message) →
          o = .error (.protocol 0 e.compact)) := by
  have htold := hm.told_of_answers hanswers
  refine ⟨Outcome.ofReply frame, htold, fun s hrun => ⟨fun o' ho' => ?_, fun hsettled => ?_⟩,
    ofReply_error_iff, fun fault hfault => ?_, fun hnone => ⟨fun v hv => ?_, fun hv => ?_⟩,
    fun e he => ⟨fun code message hspells => ?_, fun hspells => ?_⟩⟩
  · exact hm.ends_of_answers hanswers hrun ho'
  · exact hsettled.exists_outcome_of_told (hm.told_at_end hrun htold)
  · rcases ofReply_cases frame with ⟨v, hv⟩ | ⟨code, message, he⟩
    · rw [hv] at hfault
      cases hfault
    · exact ⟨code, message, Except.error.inj (hfault.symm.trans he)⟩
  · rw [ofReply_of_no_error hnone, hv]
    rfl
  · rw [ofReply_of_no_error hnone, hv]
    rfl
  · exact ofReply_of_spelled he hdistinct hspells
  · exact ofReply_of_unspelled he hdistinct hspells

/-- A request is written, and then a frame arrives. -/
def repliedRun (frame : Value) : List Action :=
  [.begin "first" none (some 5), .caller 0 none, .caller 0 none, .caller 0 none, .caller 0 none,
    .handle, .route frame]

/-- Where `repliedRun` leads. -/
def repliedEnd (frame : Value) : State where
  nextId := 2
  calls := [⟨"first", none, some 5, .waiting 1, none⟩]
  mailbox := [.frame frame]
  pending := [⟨1, 0, "first", 0, 5⟩]
  writes := [⟨⟨1, "first", none⟩, none⟩]
  log := [.tracking 1 "first"]

/-- The keeper takes the frame that arrived last. -/
def replyMoment (frame : Value) : Moment :=
  ⟨repliedRun frame, repliedEnd frame, .handle,
    { repliedEnd frame with mailbox := [] }.takeFrame frame⟩

theorem replyMoment_answers (frame : Value) (hid : replyId? frame = some 1) :
    Occurs (repliedRun frame ++ [.handle]) (replyMoment frame) ∧
      Answers ⟨1, 0, "first", 0, 5⟩ frame (replyMoment frame).state (replyMoment frame).action := by
  refine ⟨⟨List.prefix_rfl, rfl, rfl⟩, ⟨rfl, rfl, [], rfl⟩, ?_⟩
  simp [State.awaited?, hid, replyMoment, repliedEnd]

/-- An error in the positional form, with the least code. -/
def leastError : Value := .array [.integer (-9223372036854775808), .string "least", .null]

/-- An error with a code that is too great by one. -/
def greatError : Value :=
  .object [("code", .integer 9223372036854775808), ("message", .string "great")]

/-- The reply with that error beside a result. -/
def failedReply (error : Value) : Value :=
  .object [("id", .integer 1), ("result", .bool true), ("error", error)]

theorem read_failedReply :
    read? "\x7b\"id\":1,\"result\":true,\"error\":[-9223372036854775808,\"least\",null]\x7d" =
      some (failedReply leastError) ∧
    read? ("\x7b\"id\":1,\"result\":true,\"error\":" ++
        "\x7b\"code\":9223372036854775808,\"message\":\"great\"\x7d\x7d") =
      some (failedReply greatError) := by
  constructor <;> decide +kernel

theorem meaning_of_reply_extreme :
    (Occurs (repliedRun (failedReply leastError) ++ [.handle])
        (replyMoment (failedReply leastError)) ∧
      (replyMoment (failedReply leastError)).next.Told 0
        (.error (.protocol (-9223372036854775808) "least"))) ∧
    Occurs (repliedRun (failedReply greatError) ++ [.handle])
        (replyMoment (failedReply greatError)) ∧
      (replyMoment (failedReply greatError)).next.Told 0
        (.error (.protocol 0
          "\x7b\"code\":9223372036854775808,\"message\":\"great\"\x7d")) := by
  constructor
  · have hspells : SpellsError leastError (-9223372036854775808) "least" :=
      .items (.integer ⟨by decide, by decide⟩) (.text "least") .null
    obtain ⟨hm, hanswers⟩ := replyMoment_answers (failedReply leastError) rfl
    obtain ⟨o, htold, -, -, -, -, herror⟩ :=
      meaning_of_reply hm hanswers (distinct_of_read? read_failedReply.1)
    rw [(herror leastError rfl).1 _ _ hspells] at htold
    exact ⟨hm, htold⟩
  · have hspells : ∀ code message, ¬ SpellsError greatError code message := by
      intro code message h
      change SpellsError (.object _) code message at h
      cases h with
      | members hcode hmessage =>
          change SpellsCode (some (.integer 9223372036854775808)) code at hcode
          cases hcode with
          | integer hrange => exact absurd hrange.2 (by decide)
    have htext : greatError.compact =
        "\x7b\"code\":9223372036854775808,\"message\":\"great\"\x7d" := by decide +kernel
    obtain ⟨hm, hanswers⟩ := replyMoment_answers (failedReply greatError) rfl
    obtain ⟨o, htold, -, -, -, -, herror⟩ :=
      meaning_of_reply hm hanswers (distinct_of_read? read_failedReply.2)
    rw [(herror greatError rfl).2 hspells, htext] at htold
    exact ⟨hm, htold⟩

end ConsoleTap.Exchange
