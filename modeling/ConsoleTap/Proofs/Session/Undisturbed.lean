import ConsoleTap.Proofs.Exchange.Orderly
import ConsoleTap.Proofs.Session.Arrivals
import ConsoleTap.Proofs.Session.Requests
import ConsoleTap.Proofs.Session.Sequential

/-!
# Undisturbed sessions

A session is undisturbed if only frames arrive, nobody closes it and the target answers
every command that asks for properties once, in time and with what a table has for the
object, in whatever order it likes.  Then every fetch brings what the table has, all of
them are over when nobody can act, and what is passed on to the dispatcher are the
frames that answer no such command.
-/

namespace ConsoleTap.Session

open ConsoleTap.Json ConsoleTap.Target ConsoleTap.Print
open ConsoleTap.Exchange (Outcome replyId?)

/-- What the target has for each object: its properties, or an error. -/
abbrev PropertyTable := String → Except (Int × String) (List PropertyDescriptor)

/-- The source that answers at once from a table. -/
def PropertyTable.source (table : PropertyTable) : PropertyLookup := fun objectId =>
  (table objectId).mapError fun e => .protocol e.1 e.2

/-- Whether a frame answers a command that asked for properties. -/
def State.isReply (s : State) (frame : Value) : Bool :=
  s.asked.any fun q => decide (replyId? frame = some q.1)

/-- The frames that arrive in a run and answer no such command, in order. -/
def State.eventFrames (s : State) (as : List Action) : List Value :=
  (arrived as).filter fun frame => !s.isReply frame

/-- The session is left alone by all but a target that sends frames and answers each command that
    asks for properties once, after it was written and before its deadline, with what the table
    has for its object. -/
structure Undisturbed (table : PropertyTable) (options : Options) (as : List Action) (s : State) :
    Prop where
  frames : ∀ x, .arrive x ∈ as → ∃ text, x = .frame text
  notClosed : s.core.closed = false
  accepted : ∀ w ∈ s.core.writes, w.refusal = none
  inTime : ∀ m, Occurs options as m → m.state.core.hasOverdue = false
  answered : ∀ id objectId, (id, objectId) ∈ s.asked →
    (arrived as).countP (fun frame => decide (replyId? frame = some id)) = 1
  answer : ∀ (m : Moment) (frame : Value) (id : Nat) (objectId : String), Occurs options as m →
    m.action.arrived? = some frame → (id, objectId) ∈ s.asked → replyId? frame = some id →
      (id, objectId) ∈ m.state.asked ∧
        fetchedProperties (Outcome.ofReply frame) = table.source objectId

variable {table : PropertyTable} {options : Options} {s : State} {as : List Action}
  {n id : Nat} {objectId : String} {frame : Value} {log : List Notice} {c : Exchange.Call}
  {o : Outcome}

theorem isReply_iff : s.isReply frame = true ↔
    ∃ id objectId, (id, objectId) ∈ s.asked ∧ replyId? frame = some id := by
  simp [State.isReply, List.any_eq_true]

section Undisturbed

variable (h : Undisturbed table options as s) (hrun : run? (opened options) as = some s)
include h hrun

/-! ### Replies -/

theorem Undisturbed.calm : Exchange.Calm (coreRun options as) { s.core with log := log } where
  notClosed := h.notClosed
  accepted := h.accepted
  patient hexpire := by
    obtain ⟨m, hm, hoverdue⟩ := expire_of_coreRun hrun hexpire
    rw [h.inTime m hm] at hoverdue
    cases hoverdue

theorem Undisturbed.arrived_getElem? {i : Nat}
    (hi : (Exchange.routed (coreRun options as))[i]? = some frame) :
    (arrived as)[i]? = some frame := by
  obtain ⟨-, harrived⟩ := arrived_eq hrun h.frames
  rw [routed_coreRun hrun] at hi
  rw [harrived, List.getElem?_append_left (List.getElem?_eq_some_iff.mp hi).1, hi]

omit hrun in
/-- The answer to a command is received after the command was written. -/
theorem Undisturbed.asked_before (hasked : (id, objectId) ∈ s.asked) {m : Moment}
    (hm : Occurs options as m) (haction : m.action = .receive)
    (hframe : routedFrame m.state m.action = [frame]) (hreply : replyId? frame = some id) :
    (id, objectId) ∈ m.state.asked := by
  have hinit : m.before <+: as := (List.prefix_append _ _).trans hm.1
  obtain ⟨hreceiving, harrived⟩ := arrived_eq hm.run fun x hx => h.frames x (hinit.subset hx)
  have hstep := (hreceiving.step hm.move fun x hx => by rw [haction] at hx; cases hx).2
  have hwaiting : frame ∈ arrived m.before := by
    have hnone : Action.receive.arrived?.toList = [] := rfl
    rw [hframe, haction, hnone, List.append_nil] at hstep
    rw [harrived, hstep]
    exact List.mem_append_right _ List.mem_cons_self
  obtain ⟨m', hm', harrival⟩ := exists_arrival hm.run hwaiting
  have hm'as : Occurs options as m' := Run.Moment.In.mono hm' hinit
  obtain ⟨rest, hrest⟩ := Run.Moment.In.after hm' hm.2.1
  rw [← run?_eq_follow] at hrest
  have hlasts := hm'as.move.lasts.trans (lasts_of_run hrest)
  exact asked_subset hlasts (h.answer m' frame id objectId hm'as harrival hasked hreply).1

theorem Undisturbed.orderly (hasked : (id, objectId) ∈ s.asked) :
    Exchange.Orderly (coreRun options as) { s.core with log := log } id where
  toCalm := h.calm hrun
  asked hq hroute hreply := by
    obtain ⟨m, hm, haction, hframe, hmuted⟩ := exists_receive_of_route hrun hq hroute
    obtain ⟨w, hw, -, hid, -⟩ := mem_asked.mp (h.asked_before hasked hm haction hframe hreply)
    rw [Exchange.muted_eq_iff] at hmuted
    rw [hmuted]
    exact ⟨w, hw, hid⟩
  once {i j f g} hi hj hf hg := by
    -- with one answer in all, both stand behind none
    have hfirst : ∀ {k : Nat} {f : Value}, (arrived as)[k]? = some f → replyId? f = some id →
        (arrived as).findIdxNth (fun frame => decide (replyId? frame = some id)) 0 = k := by
      intro k f hk hf
      obtain ⟨hlt, rfl⟩ := List.getElem?_eq_some_iff.mp hk
      have hcount := List.countPBefore_lt_countP_of_lt_length_of_pos
        (p := fun frame => decide (replyId? frame = some id)) (h := hlt) (by simp [hf])
      rw [h.answered id objectId hasked, Nat.lt_one_iff] at hcount
      have hindex := List.findIdxNth_countPBefore_of_lt_length_of_pos
        (p := fun frame => decide (replyId? frame = some id)) (h := hlt) (by simp [hf])
      rwa [hcount] at hindex
    rw [← hfirst (h.arrived_getElem? hrun hi) hf, hfirst (h.arrived_getElem? hrun hj) hg]

/-! ### Fetches -/

section Core

variable (hcore : Exchange.run? {} (coreRun options as) = some { s.core with log := log })
include hcore

omit hrun in
theorem Undisturbed.asked_of_hasWritten (hfetch : s.IsFetch n objectId)
    (hcall : s.core.calls[n]? = some c) (hwritten : c.HasWritten) :
    ∃ id, Exchange.Happens (coreRun options as) (Exchange.Draws n id) ∧
      (id, objectId) ∈ s.asked := by
  obtain ⟨⟨k, w⟩, hw, rfl⟩ :=
    List.mem_map.mp ((Exchange.ledger_of_run hcore).complete hcall hwritten)
  have hwrite : w ∈ s.core.writes := by
    rw [writes_eq_ledger hcore]
    exact List.mem_map_of_mem hw
  exact ⟨w.command.id, Exchange.drawn_of_ledger hcore hw, mem_asked.mpr
    ⟨w, hwrite, h.accepted w hwrite, rfl, (object?_of_ledger hcore hw).trans hfetch.object?⟩⟩

/-- A fetch that is over was written, and brings what the table has. -/
theorem Undisturbed.outcome (hfetch : s.IsFetch n objectId) (hcall : s.core.calls[n]? = some c)
    (hdone : c.phase = .done o) : c.HasWritten ∧ fetchedProperties o = table.source objectId := by
  obtain ⟨d, limit, hd, hlimit⟩ := hfetch.call
  obtain rfl := Option.some.inj (hcall.symm.trans hd)
  obtain ⟨q, p, frame, hq, hanswers, -, hdrawn, rfl⟩ :=
    (h.calm hrun).outcome hcore hcall hlimit hdone
  have hwritten : c.HasWritten := by
    rw [Exchange.Call.HasWritten, hdone]
    rcases Exchange.ofReply_cases frame with ⟨v, hv⟩ | ⟨code, message, he⟩
    · simp [hv]
    · simp [he]
  obtain ⟨id, hdrawn', hasked⟩ := h.asked_of_hasWritten hcore hfetch hcall hwritten
  obtain rfl := hdrawn'.id_unique hdrawn
  have harrived := h.arrived_getElem? hrun (hq.routed_getElem? hanswers.1)
  obtain ⟨m, hm, harrival⟩ := exists_arrival hrun (List.mem_of_getElem? harrived)
  have hreply := (Exchange.State.awaited?_eq_some hanswers.2).2
  exact ⟨hwritten, (h.answer m frame _ objectId hm harrival hasked hreply).2⟩

end Core

/-! ### When nobody can act -/

variable (hsettled : Settled s)
include hsettled

/-- All that has arrived was taken by the keeper. -/
theorem Undisturbed.taken_eq
    (hcore : Exchange.run? {} (coreRun options as) = some { s.core with log := log }) :
    Exchange.taken (coreRun options as) = arrived as := by
  obtain ⟨hreceiving, harrived⟩ := arrived_eq hrun h.frames
  have hinbound : s.inbound = [] := by
    have hnone := hsettled .receive rfl
    cases hinbound : s.inbound with
    | nil => rfl
    | cons x rest => simp [step?, hreceiving.receiving h.notClosed, hinbound] at hnone
  have hclosing := Exchange.closing_of_run hcore
  have hrunning : s.core.keeper = .running := by
    by_contra hshut
    have hclosed := (hclosing.shut_closed hshut).symm.trans h.notClosed
    cases hclosed
  have hmail := hsettled.core.mailbox hclosing
  have hrouted := Exchange.routed_eq hcore (Exchange.mailboxOpen_of_running hrunning)
  rw [hmail, Exchange.frames, List.filterMap_nil, List.append_nil, routed_coreRun hrun] at hrouted
  rw [← hrouted, harrived, State.waiting, hinbound, List.filterMap_nil, List.append_nil]

theorem Undisturbed.fetch_over (hfetch : s.IsFetch n objectId) (hcall : s.core.calls[n]? = some c) :
    ∃ o, c.phase = .done o := by
  obtain ⟨log, hcore, hquiet⟩ := hsettled.exists_log hrun
  rcases hquiet.call hcall with hdone | ⟨id, hphase, -⟩
  · exact hdone
  · have hwritten : c.HasWritten := by simp [Exchange.Call.HasWritten, hphase]
    obtain ⟨id, hdrawn, hasked⟩ := h.asked_of_hasWritten hcore hfetch hcall hwritten
    have hone := h.answered id objectId hasked
    obtain ⟨frame, hframe, hreply⟩ :=
      List.countP_pos_iff.mp (Nat.lt_of_lt_of_eq Nat.zero_lt_one hone.symm)
    rw [decide_eq_true_eq] at hreply
    rw [← h.taken_eq hrun hsettled hcore] at hframe
    obtain ⟨d, limit, hd, -, -, hlimit⟩ := hfetch
    obtain rfl := Option.some.inj (hcall.symm.trans hd)
    exact (h.orderly hrun hasked).resolved hcore hdrawn hcall hlimit hframe hreply hquiet

theorem Undisturbed.asked_of_pending {m : Exchange.Moment} {p : Exchange.Pending}
    (hm : Exchange.Occurs (coreRun options as) m) (hp : p ∈ m.state.pending) :
    ∃ objectId, (p.id, objectId) ∈ s.asked := by
  obtain ⟨log, hcore⟩ := exists_log_of_run hrun
  obtain ⟨r, hr, d, _, limit, -, hd, -, hlimit, -⟩ := Exchange.registered_of_tracked hm.run
    (Exchange.mem_tracked_of_mem_pending hp)
  obtain ⟨hras, -⟩ := hm.earlier hr
  have hlasts : Exchange.Lasts r.state { s.core with log := log } := by
    rw [Exchange.run?_eq_follow] at hcore
    obtain ⟨rest, hrest⟩ := Run.Moment.In.after hras hcore
    rw [← Exchange.run?_eq_follow] at hrest
    exact (Exchange.lasts_of_step hras.2.2).trans (Exchange.lasts_of_run hrest)
  obtain ⟨c, hcall, -, -, hclimit⟩ := hlasts.call hd
  have hlow : 3 ≤ p.call := by
    by_contra hlt
    have hnone := (opening_call hrun (Nat.not_le.mp hlt) hcall).2.1
    rw [hclimit, hlimit] at hnone
    cases hnone
  obtain ⟨objectId, hfetch⟩ := isFetch_of_le hrun hlow (List.getElem?_eq_some_iff.mp hcall).1
  obtain ⟨o, hdone⟩ := h.fetch_over hrun hsettled hfetch hcall
  obtain ⟨hwritten, -⟩ := h.outcome hrun hcore hfetch hcall hdone
  obtain ⟨id, hdrawn, hasked⟩ := h.asked_of_hasWritten hcore hfetch hcall hwritten
  obtain rfl := hdrawn.id_unique (hm.drawn_of_pending hp)
  exact ⟨objectId, hasked⟩

/-- When the keeper takes a frame, some request awaits it if and only if it answers a command. -/
theorem Undisturbed.awaited_iff {m : Exchange.Moment}
    (hm : Exchange.Occurs (coreRun options as) m)
    (htakes : Exchange.Takes frame m.state m.action) :
    (m.state.awaited? frame).isSome = s.isReply frame := by
  obtain ⟨log, hcore⟩ := exists_log_of_run hrun
  rw [Bool.eq_iff_iff, isReply_iff]
  constructor
  · intro hsome
    obtain ⟨p, hawaited⟩ := Option.isSome_iff_exists.mp hsome
    obtain ⟨hp, hid⟩ := Exchange.State.awaited?_eq_some hawaited
    obtain ⟨objectId, hasked⟩ := h.asked_of_pending hrun hsettled hm hp
    exact ⟨p.id, objectId, hasked, hid⟩
  · rintro ⟨id, objectId, hasked, hreply⟩
    obtain ⟨n, w, hw, rfl, hfetch⟩ := written_of_asked hcore hrun hasked
    obtain ⟨c, limit, hcall, -, -, hlimit⟩ := hfetch
    obtain ⟨p, hawaited, -⟩ := (h.orderly hrun hasked).awaited hcore
      (Exchange.drawn_of_ledger hcore hw) hcall hlimit hm htakes hreply
    rw [hawaited]
    rfl

/-- What was passed on are the frames that answer no command. -/
theorem Undisturbed.forwarded_eq : s.core.forwarded = s.eventFrames as := by
  obtain ⟨log, hcore⟩ := exists_log_of_run hrun
  rw [forwarded_eq_events hrun, State.eventFrames, ← h.taken_eq hrun hsettled hcore]
  refine Run.along_eq_filter Exchange.eventFrame Exchange.takenFrame _
    ((Exchange.run?_eq_follow _ _).symm.trans hcore) fun m hm => ?_
  apply List.filter_congr
  intro frame hframe
  rw [← h.awaited_iff hrun hsettled hm (Exchange.mem_takenFrame.mp hframe)]
  cases m.state.awaited? frame <;> rfl

end Undisturbed

end ConsoleTap.Session
