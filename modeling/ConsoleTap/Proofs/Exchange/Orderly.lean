import ConsoleTap.Proofs.Exchange.Overtaking
import ConsoleTap.Proofs.Exchange.Writing

/-!
# Orderly runs

A run is calm if nothing goes wrong: nobody closes the exchange, the channel accepts every
write and no deadline is missed.  A request that is over has then got its reply.  If one
reply at most arrives for an id, after its command, the request is still pending when the
keeper takes the reply.
-/

namespace ConsoleTap.Exchange

open ConsoleTap.Json ConsoleTap.Target

variable {s : State} {as : List Action} {n id : Nat} {m : Moment} {frame : Value}

/-! ### Calm runs -/

/-- A run in which the exchange is not closed, every write is accepted and no request runs out of
    time. -/
structure Calm (as : List Action) (s : State) : Prop where
  notClosed : s.closed = false
  accepted : ∀ w ∈ s.writes, w.refusal = none
  patient : Action.expire ∉ as

theorem exists_refused {cause : TransportFault} (hrun : run? {} as = some s)
    (hrefused : Happens as (Writes n id (some cause))) :
    ∃ w ∈ s.writes, w.refusal = some cause := by
  obtain ⟨m, hm, c, haction, hcall, hphase⟩ := hrefused
  have hwritten : written m.state m.action =
      [(n, ⟨⟨id, c.method, c.params⟩, some cause⟩)] := by
    simp [haction, written, hcall, Call.writeId?, hphase]
  have hledger : (n, ⟨⟨id, c.method, c.params⟩, some cause⟩) ∈ ledger as := by
    apply (Run.Moment.In.along_snoc_prefix written hm).subset
    rw [hwritten]
    exact List.mem_append_right _ List.mem_cons_self
  rw [(ledger_of_run hrun).writes]
  exact ⟨_, List.mem_map.mpr ⟨_, hledger, rfl⟩, rfl⟩

theorem Calm.not_refused {cause : TransportFault} (h : Calm as s) (hrun : run? {} as = some s) :
    ¬ Happens as (Writes n id (some cause)) := by
  intro hrefused
  obtain ⟨w, hw, hrefusal⟩ := exists_refused hrun hrefused
  rw [h.accepted w hw] at hrefusal
  cases hrefusal

theorem Calm.reply {o : Outcome} (h : Calm as s) (hrun : run? {} as = some s)
    (hcause : Cause as n id o) :
    ∃ q p frame, Occurs as q ∧ Answers p frame q.state q.action ∧ p.call = n ∧ p.id = id ∧
      o = Outcome.ofReply frame := by
  cases hcause with
  | reply hq hanswers hn hid => exact ⟨_, _, _, hq, hanswers, hn, hid, rfl⟩
  | expiry hq hexpires hn hid =>
      refine absurd ?_ h.patient
      have hmem := hq.1.subset (List.mem_append_right _ List.mem_cons_self)
      rwa [hexpires.1] at hmem
  | shutdown hq hclosed =>
      have hclosed' := hq.closed hrun hclosed
      rw [h.notClosed] at hclosed'
      cases hclosed'
  | refusal hrefused => exact absurd hrefused (h.not_refused hrun)

/-- In a calm run every request that is over ended with a reply. -/
theorem Calm.outcome {c : Call} {limit : Nat} {o : Outcome} (h : Calm as s)
    (hrun : run? {} as = some s) (hcall : s.calls[n]? = some c) (hlimit : c.limit = some limit)
    (hdone : c.phase = .done o) :
    ∃ q p frame, Occurs as q ∧ Answers p frame q.state q.action ∧ p.call = n ∧
      Happens as (Draws n p.id) ∧ o = Outcome.ofReply frame := by
  have hdrawn : ∃ id, Happens as (Draws n id) := by
    obtain ⟨m, d, d', hm, hd, -, hprogress, hnew, hdone'⟩ :=
      exists_progress (P := fun c => c.phase = .done o) hrun hcall hdone
        (fun c hphase _ => by simp [hphase])
    have hdlimit : d.limit = some limit := (hm.call_kept hrun hd hcall).1.symm.trans hlimit
    rcases hprogress.ends hdlimit hnew hdone' with
      ⟨⟨-, hclosed⟩, -⟩ | ⟨id, cause, hphase, -⟩ | ⟨id, hphase, -⟩
    · have hclosed' : m.state.closed = true := by
        rcases hclosed with hclosed | hshut
        · exact hclosed
        · apply (closing_of_run hm.run).shut_closed
          rcases mailboxOpen_eq_false_iff.mp hshut with hk | hk <;> simp [hk]
      have := (hm.closed hrun hclosed').symm.trans h.notClosed
      cases this
    · exact ⟨id, hm.happens (drawn_of_id hm.run hd (by rw [hphase]; rfl))⟩
    · exact ⟨id, hm.happens (drawn_of_id hm.run hd (by rw [hphase]; rfl))⟩
  obtain ⟨id, hdrawn⟩ := hdrawn
  obtain ⟨q, p, frame, hq, hanswers, hn, rfl, ho⟩ :=
    h.reply hrun (cause_of_outcome hrun hcall hlimit hdrawn hdone)
  exact ⟨q, p, frame, hq, hanswers, hn, hdrawn, ho⟩

theorem Calm.before (h : Calm as s) (hrun : run? {} as = some s) (hm : Occurs as m) :
    Calm m.before m.state where
  notClosed := by
    cases hclosed : m.state.closed with
    | false => rfl
    | true => exact (hm.closed hrun hclosed).symm.trans h.notClosed
  accepted w hw := by
    have hentries := (ledger_of_run hm.run).writes
    have hinit := (Run.Moment.In.along_snoc_prefix written hm).subset
    rw [hentries] at hw
    obtain ⟨x, hx, rfl⟩ := List.mem_map.mp hw
    apply h.accepted _
    rw [(ledger_of_run hrun).writes]
    exact List.mem_map_of_mem (hinit (List.mem_append_left _ hx))
  patient hmem := h.patient (((List.prefix_append _ _).trans hm.1).subset hmem)

/-! ### Orderly replies -/

/-- A calm run in which one reply at most arrives for an id, after its command was written. -/
structure Orderly (as : List Action) (s : State) (id : Nat) : Prop extends Calm as s where
  asked : ∀ {q : Moment} {frame : Value}, Occurs as q → q.action = .route frame →
    replyId? frame = some id → ∃ w ∈ q.state.writes, w.command.id = id
  once : ∀ {i j : Nat} {f g : Value}, (routed as)[i]? = some f → (routed as)[j]? = some g →
    replyId? f = some id → replyId? g = some id → i = j

/-- Whoever wrote a command under an id in a calm run had it accepted. -/
theorem Calm.writes {c : Call} {limit : Nat} {w : Write} (h : Calm as s)
    (hrun : run? {} as = some s) (hcall : s.calls[n]? = some c) (hlimit : c.limit = some limit)
    (hw : (n, w) ∈ ledger as) : Happens as (Writes n w.command.id none) := by
  have haccepted : w.refusal = none := by
    apply h.accepted
    rw [(ledger_of_run hrun).writes]
    exact List.mem_map_of_mem hw
  obtain ⟨m, hm, hwrites⟩ := exists_write hrun hw
  obtain ⟨d, id, refusal, haction, hd, hid, rfl⟩ := mem_written hwrites
  obtain rfl : refusal = none := haccepted
  have hdlimit : d.limit = some limit := (hm.call_kept hrun hd hcall).1.symm.trans hlimit
  refine ⟨m, hm, d, haction, hd, ?_⟩
  unfold Call.writeId? at hid
  split at hid <;> simp_all

theorem Orderly.follow {c : Call} {limit : Nat} (h : Orderly as s id)
    (hrun : run? {} as = some s) (hdrawn : Happens as (Draws n id))
    (hcall : s.calls[n]? = some c) (hlimit : c.limit = some limit) : RepliesFollow as n id := by
  intro q frame hq hroute hreply
  have hledger := ledger_of_run hq.run
  obtain ⟨w, hw, hid⟩ := h.asked hq hroute hreply
  rw [hledger.writes] at hw
  obtain ⟨⟨k, w'⟩, hmem, rfl⟩ := List.mem_map.mp hw
  have hk : Happens q.before (Draws k id) := hid ▸ drawn_of_ledger hq.run hmem
  obtain rfl := (hq.happens hk).drawer_unique hdrawn
  obtain ⟨d, hd, -⟩ := hledger.call hmem
  have hdlimit : d.limit = some limit := (hq.call_kept hrun hd hcall).1.symm.trans hlimit
  exact hid ▸ (h.toCalm.before hrun hq).writes hq.run hd hdlimit hmem

/-- When the keeper takes the reply of a request in an orderly run, the request is pending. -/
theorem Orderly.awaited {c : Call} {limit : Nat} (h : Orderly as s id)
    (hrun : run? {} as = some s) (hdrawn : Happens as (Draws n id))
    (hcall : s.calls[n]? = some c) (hlimit : c.limit = some limit) (hm : Occurs as m)
    (htakes : Takes frame m.state m.action) (hreply : replyId? frame = some id) :
    ∃ p, m.state.awaited? frame = some p ∧ p.call = n := by
  obtain ⟨p, hn, rfl, hanswers | ⟨q, hq, hexpires⟩ | ⟨frame', q, hq, hanswers⟩⟩ :=
    (h.follow hrun hdrawn hcall hlimit).answers hm htakes hreply
  · exact ⟨p, hanswers.2, hn⟩
  · refine absurd ?_ h.patient
    rw [← hexpires.1]
    exact (hm.earlier hq).1.1.subset (List.mem_append_right _ List.mem_cons_self)
  · -- an earlier reply would have had the same id
    obtain ⟨hqas, hearlier⟩ := hm.earlier hq
    have hlt := hqas.taken_length_lt hm hanswers.1 hearlier
    have heq := h.once (hqas.routed_getElem? hanswers.1) (hm.routed_getElem? htakes)
      (State.awaited?_eq_some hanswers.2).2 hreply
    omega

/-- A request whose reply was taken in an orderly run is over when nobody can act. -/
theorem Orderly.resolved {c : Call} {limit : Nat} (h : Orderly as s id)
    (hrun : run? {} as = some s) (hdrawn : Happens as (Draws n id))
    (hcall : s.calls[n]? = some c) (hlimit : c.limit = some limit) (hframe : frame ∈ taken as)
    (hreply : replyId? frame = some id) (hsettled : Settled s) : ∃ o, c.phase = .done o := by
  obtain ⟨k, hk⟩ := List.mem_iff_getElem?.mp hframe
  obtain ⟨m, hm, htakes, -⟩ := exists_takes hrun hk
  obtain ⟨p, hawaited, rfl⟩ := h.awaited hrun hdrawn hcall hlimit hm htakes hreply
  obtain ⟨d, hd, hword⟩ := hm.told_at_end hrun (hm.told_of_answers ⟨htakes, hawaited⟩)
  obtain rfl := Option.some.inj (hcall.symm.trans hd)
  rcases hsettled.call hcall with hdone | ⟨_, -, hnone⟩
  · exact hdone
  · rw [hword] at hnone
    cases hnone

end ConsoleTap.Exchange
