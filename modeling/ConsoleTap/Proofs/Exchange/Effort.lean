import ConsoleTap.Proofs.Exchange.Lasting
import Mathlib

/-!
# What is left to do

Whatever the parties of the exchange do by themselves brings them nearer to an end.  Either
the keeper is done with a frame, or what is left to do gets less: each phase of a caller or
a closer, each message that is no frame, each pending request and each phase of the keeper
counts for what can still come of it.
-/

namespace ConsoleTap.Exchange

open ConsoleTap.Json

variable {s t : State} {a : Action} {n : Nat} {c : Call}

/-! ### Counting -/

/-- What is left to do for a caller; a request that it registers counts as well. -/
def Phase.effort : Phase → Nat
  | .started => 9
  | .admitted => 8
  | .numbered _ => 7
  | .registered _ => 4
  | .refused .. => 3
  | .waiting _ => 1
  | .done _ => 0

def CloserPhase.effort : CloserPhase → Nat
  | .asked => 4
  | .admitted => 3
  | .flagged => 2
  | .done => 0

/-- What is left to do for the keeper with a message; frames are counted apart. -/
def Message.effort : Message → Nat
  | .register _ => 2
  | .forget _ | .shutdown => 1
  | .frame _ => 0

def KeeperPhase.effort : KeeperPhase → Nat
  | .running => 3
  | .leaving => 2
  | .draining => 1
  | .stopped => 0

def State.effort (s : State) : Nat :=
  (s.calls.map fun c => c.phase.effort).sum + (s.closers.map CloserPhase.effort).sum +
    (s.mailbox.map Message.effort).sum + s.pending.length + s.keeper.effort

theorem sum_map_modify {α : Type} {xs : List α} {f : α → α} {g : α → Nat} {x : α}
    (hx : xs[n]? = some x) :
    ((xs.modify n f).map g).sum + g x = (xs.map g).sum + g (f x) := by
  induction xs generalizing n with
  | nil => cases hx
  | cons y xs ih =>
      cases n with
      | zero =>
          obtain rfl := Option.some.inj hx
          simp only [List.modify_zero_cons, List.map_cons, List.sum_cons]
          omega
      | succ n =>
          have hrest := ih hx
          simp only [List.modify_succ_cons, List.map_cons, List.sum_cons]
          omega

theorem State.effort_setPhase (hcall : s.calls[n]? = some c) (φ : Phase) :
    (s.setPhase n φ).effort + c.phase.effort = s.effort + φ.effort := by
  have hsum : ((rephase s.calls n φ).map fun c => c.phase.effort).sum + c.phase.effort =
      (s.calls.map fun c => c.phase.effort).sum + φ.effort := sum_map_modify hcall
  simp only [rephase] at hsum
  simp only [State.effort, State.setPhase, State.updateCall]
  omega

theorem sum_map_set {α : Type} {xs : List α} {g : α → Nat} {x : α} (hx : xs[n]? = some x) (y : α) :
    ((xs.set n y).map g).sum + g x = (xs.map g).sum + g y := by
  rw [List.set_eq_modify]
  exact sum_map_modify hx

/-- The keeper's word leaves the callers where they are. -/
theorem map_phase_tell (calls : List Call) (words : List (Nat × Outcome)) :
    (tell calls words).map Call.phase = calls.map Call.phase := by
  induction words generalizing calls with
  | nil => rfl
  | cons w words ih =>
      rw [tell_cons, ih]
      apply List.ext_getElem?
      intro k
      rw [List.getElem?_map, List.getElem?_map, List.getElem?_modify]
      cases calls[k]? with
      | none => rfl
      | some c => split <;> rfl

theorem effort_tell (calls : List Call) (words : List (Nat × Outcome)) :
    ((tell calls words).map fun c => c.phase.effort).sum =
      (calls.map fun c => c.phase.effort).sum := by
  have hphases := congrArg (fun phases => (phases.map Phase.effort).sum) (map_phase_tell calls words)
  simpa only [List.map_map, Function.comp_def] using hphases

theorem State.effort_append (m : Message) :
    State.effort { s with mailbox := s.mailbox ++ [m] } = s.effort + m.effort := by
  simp only [State.effort, List.map_append, List.sum_append, List.map_cons, List.map_nil,
    List.sum_cons, List.sum_nil]
  omega

theorem State.effort_post_le (m : Message) : (s.post m).effort ≤ s.effort + m.effort := by
  rw [State.post]
  split
  · exact (State.effort_append m).le
  · exact Nat.le_add_right _ _

theorem State.frames_post {m : Message} (hm : m.frame? = none) :
    Exchange.frames (s.post m).mailbox = Exchange.frames s.mailbox := by
  rw [State.post]
  split
  · simp [Exchange.frames, hm]
  · rfl

theorem length_without_le (ps : List Pending) (id : Nat) : (without ps id).length ≤ ps.length :=
  List.length_filter_le _ _

theorem State.length_withoutAll_overdue (h : s.hasOverdue = true) :
    (withoutAll s.pending s.overdue).length < s.pending.length := by
  obtain ⟨p, hp, hlate⟩ := List.any_eq_true.mp h
  refine (withoutAll_sublist s.pending s.overdue).length_le.lt_of_ne fun hlength => ?_
  have heq := (withoutAll_sublist s.pending s.overdue).eq_of_length hlength
  have hmem : p ∈ withoutAll s.pending s.overdue := heq.symm ▸ hp
  exact (mem_withoutAll.mp hmem).2 p (List.mem_filter.mpr ⟨hp, hlate⟩) rfl

/-! ### Steps of the parties -/

theorem State.effort_advance (hcall : s.calls[n]? = some c) {φ : Phase}
    (hless : φ.effort < c.phase.effort) : (s.setPhase n φ).effort < s.effort := by
  have heffort := State.effort_setPhase hcall φ
  omega

/-- A caller's action leaves less to do. -/
theorem Move.effort_lt_of_caller {refusal : Option TransportFault}
    (hmove : Move s (.caller n refusal) t) :
    Exchange.frames t.mailbox = Exchange.frames s.mailbox ∧ t.effort < s.effort := by
  cases hmove with
  | letIn hcall hphase hclosed =>
      exact ⟨rfl, State.effort_advance hcall (by simp [hphase, Phase.effort])⟩
  | turnAway hcall hphase hclosed =>
      exact ⟨rfl, State.effort_advance hcall (by simp [hphase, Phase.effort])⟩
  | draw hcall hphase =>
      exact ⟨rfl, State.effort_advance (s := { s with nextId := s.nextId + 1 }) hcall
        (by simp [hphase, Phase.effort])⟩
  | register hcall hphase hlimit hopen =>
      rename_i id limit c
      have heffort := State.effort_setPhase (s := { s with
        mailbox := s.mailbox ++ [.register ⟨id, n, c.method, s.now, s.now + limit⟩] }) hcall
          (.registered id)
      rw [State.effort_append, hphase] at heffort
      simp only [Phase.effort, Message.effort] at heffort
      exact ⟨by simp [State.setPhase, State.updateCall], by omega⟩
  | registerLate hcall hphase hlimit hshut =>
      exact ⟨rfl, State.effort_advance hcall (by simp [hphase, Phase.effort])⟩
  | notify hcall hphase hlimit =>
      rename_i id c
      exact ⟨rfl, State.effort_advance (s := s.recordWrite id c none) hcall
        (by simp [hphase, Phase.effort])⟩
  | notifyRefused hcall hphase hlimit =>
      rename_i id c cause
      exact ⟨rfl, State.effort_advance (s := s.recordWrite id c (some cause)) hcall
        (by simp [hphase, Phase.effort])⟩
  | write hcall hphase =>
      rename_i id c
      exact ⟨rfl, State.effort_advance (s := s.recordWrite id c none) hcall
        (by simp [hphase, Phase.effort])⟩
  | writeRefused hcall hphase =>
      rename_i id c cause
      exact ⟨rfl, State.effort_advance (s := s.recordWrite id c (some cause)) hcall
        (by simp [hphase, Phase.effort])⟩
  | withdraw hcall hphase =>
      rename_i id c cause
      have hcalls : (s.post (.forget id)).calls = s.calls := by
        rw [State.post]
        split <;> rfl
      have heffort := State.effort_setPhase (s := s.post (.forget id)) (hcalls ▸ hcall)
        (.done (.error (.transport cause)))
      have hpost := State.effort_post_le (s := s) (.forget id)
      rw [hphase] at heffort
      simp only [Phase.effort, Message.effort] at heffort hpost
      exact ⟨State.frames_post rfl, by omega⟩
  | learn hcall hphase hword =>
      exact ⟨rfl, State.effort_advance hcall (by simp [hphase, Phase.effort])⟩

/-- A closer's action leaves less to do. -/
theorem Move.effort_lt_of_closer (hmove : Move s (.closer n) t) :
    Exchange.frames t.mailbox = Exchange.frames s.mailbox ∧ t.effort < s.effort := by
  cases hmove with
  | look hcloser =>
      refine ⟨rfl, ?_⟩
      have hless : (if s.closed then CloserPhase.done else .admitted).effort ≤ 3 := by
        split <;> decide
      have hsum := sum_map_set (g := CloserPhase.effort) hcloser (if s.closed then .done else .admitted)
      simp only [State.effort]
      simp only [CloserPhase.effort] at hsum hless
      omega
  | flag hcloser =>
      refine ⟨rfl, ?_⟩
      have hsum := sum_map_set (g := CloserPhase.effort) hcloser .flagged
      simp only [State.effort]
      simp only [CloserPhase.effort] at hsum
      omega
  | announce hcloser =>
      refine ⟨State.frames_post rfl, ?_⟩
      have hclosers : (s.post .shutdown).closers = s.closers := by
        rw [State.post]
        split <;> rfl
      have hsum := sum_map_set (g := CloserPhase.effort) hcloser .done
      have hpost := State.effort_post_le (s := s) .shutdown
      simp only [State.effort, CloserPhase.effort, Message.effort, hclosers] at hsum hpost ⊢
      omega

/-- A party's action is the end of a frame, or less is left to do after it. -/
theorem Move.effort_lt (hmove : Move s a t) (hinner : a.isInner = true) :
    (Exchange.frames t.mailbox).length < (Exchange.frames s.mailbox).length ∨
      (Exchange.frames t.mailbox).length = (Exchange.frames s.mailbox).length ∧
        t.effort < s.effort := by
  cases a with
  | caller k refusal =>
      obtain ⟨hframes, heffort⟩ := hmove.effort_lt_of_caller
      exact Or.inr ⟨by rw [hframes], heffort⟩
  | closer k =>
      obtain ⟨hframes, heffort⟩ := hmove.effort_lt_of_closer
      exact Or.inr ⟨by rw [hframes], heffort⟩
  | handle =>
      cases hmove with
      | takeRequest hkeeper hmail =>
          rename_i p rest
          have hpending := length_without_le s.pending p.id
          refine Or.inr ⟨by simp [hmail, State.note], ?_⟩
          simp only [State.effort, State.note, hmail, List.map_cons, List.sum_cons,
            List.length_append, List.length_singleton, Message.effort]
          omega
      | takeForget hkeeper hmail =>
          rename_i id rest
          have hpending := length_without_le s.pending id
          refine Or.inr ⟨by simp [hmail], ?_⟩
          simp only [State.effort, hmail, List.map_cons, List.sum_cons, Message.effort]
          omega
      | takeReply hkeeper hmail hreply => exact Or.inl (by simp [hmail])
      | takeEvent hkeeper hmail hreply hreader => exact Or.inl (by simp [hmail])
      | dropEvent hkeeper hmail hreply hreader => exact Or.inl (by simp [hmail, State.note])
      | takeShutdown hkeeper hmail =>
          refine Or.inr ⟨by simp [hmail], ?_⟩
          simp only [State.effort, hmail, hkeeper, List.map_cons, List.sum_cons, Message.effort,
            KeeperPhase.effort]
          omega
  | expire =>
      cases hmove with
      | expire hkeeper hoverdue =>
          have hpending := State.length_withoutAll_overdue hoverdue
          rw [State.expireAll_eq]
          refine Or.inr ⟨rfl, ?_⟩
          simp only [State.effort, effort_tell]
          omega
  | shut =>
      cases hmove with
      | shut hkeeper =>
          refine Or.inr ⟨rfl, ?_⟩
          simp only [State.effort, hkeeper, KeeperPhase.effort]
          omega
  | discard =>
      cases hmove with
      | discardRequest hkeeper hmail =>
          refine Or.inr ⟨by simp [hmail], ?_⟩
          simp only [State.effort, hmail, effort_tell, List.map_cons, List.sum_cons,
            Message.effort]
          omega
      | discardOther hkeeper hmail hother =>
          rename_i m rest
          cases m with
          | register p => exact absurd rfl (hother p)
          | frame frame => exact Or.inl (by simp [hmail])
          | forget id =>
              refine Or.inr ⟨by simp [hmail], ?_⟩
              simp only [State.effort, hmail, List.map_cons, List.sum_cons, Message.effort]
              omega
          | shutdown =>
              refine Or.inr ⟨by simp [hmail], ?_⟩
              simp only [State.effort, hmail, List.map_cons, List.sum_cons, Message.effort]
              omega
  | stop =>
      cases hmove with
      | stop hkeeper hmail =>
          rw [State.cancelAll_eq]
          refine Or.inr ⟨rfl, ?_⟩
          simp only [State.effort, effort_tell, hkeeper, KeeperPhase.effort, List.length_nil]
          omega
  | _ => cases hinner

/-- A frame is passed on only as the keeper takes it. -/
theorem Move.forwarded_le (hmove : Move s a t) (hinner : a.isInner = true) :
    t.forwarded.length + (Exchange.frames t.mailbox).length ≤
      s.forwarded.length + (Exchange.frames s.mailbox).length := by
  cases hmove with
  | begin => cases hinner
  | ask => cases hinner
  | route => cases hinner
  | routeLate => cases hinner
  | leave => cases hinner
  | tick => cases hinner
  | register hcall hphase hlimit hopen => simp [State.setPhase, State.updateCall]
  | withdraw hcall hphase =>
      rename_i n id c cause refusal
      have hforwarded : (s.post (.forget id)).forwarded = s.forwarded := by
        rw [State.post]
        split <;> rfl
      have hframes := State.frames_post (s := s) (m := .forget id) rfl
      simp only [State.setPhase, State.updateCall, hforwarded, hframes, le_refl]
  | announce hcloser =>
      have hforwarded : (s.post .shutdown).forwarded = s.forwarded := by
        rw [State.post]
        split <;> rfl
      simp only [hforwarded, State.frames_post (s := s) (m := .shutdown) rfl, le_refl]
  | takeRequest hkeeper hmail => simp [hmail, State.note]
  | takeForget hkeeper hmail => simp [hmail]
  | takeReply hkeeper hmail hreply => simp [hmail]
  | takeEvent hkeeper hmail hreply hreader =>
      simp only [hmail, frames_frame, List.length_append, List.length_cons, List.length_nil]
      omega
  | dropEvent hkeeper hmail hreply hreader => simp [hmail, State.note]
  | takeShutdown hkeeper hmail => simp [hmail]
  | expire hkeeper hoverdue => rw [State.expireAll_eq]
  | discardRequest hkeeper hmail => simp [hmail]
  | discardOther hkeeper hmail hother =>
      rename_i m rest
      cases m <;> simp [hmail]
  | stop hkeeper hmail => rw [State.cancelAll_eq]
  | _ => exact le_refl _

/-! ### What the target has brought -/

/-- The call has brought something; a notification brings its id without the target. -/
def Call.hasBrought (c : Call) : Bool :=
  c.limit.isNone || c.word.any Except.isOk || c.outcome?.any Except.isOk

def State.brought (s : State) (n : Nat) : Bool := (s.calls[n]?).any Call.hasBrought

theorem State.brought_of_outcome {v : Value} (h : s.outcome? n = some (.ok v)) :
    s.brought n = true := by
  obtain ⟨c, hcall, houtcome⟩ := Option.bind_eq_some_iff.mp h
  simp [State.brought, hcall, Call.hasBrought, houtcome, Except.isOk, Except.toBool]

theorem Progress.hasBrought {c' : Call} (hprogress : Progress s n a c c')
    (hhandle : ∀ frame rest, s.mailbox = .frame frame :: rest → a ≠ .handle)
    (h : c'.hasBrought = true) : c.hasBrought = true := by
  cases hprogress with
  | stay => exact h
  | answered hkeeper hmail hreply hn => exact absurd rfl (hhandle _ _ hmail)
  | notify hphase hnone => simp [Call.hasBrought, hnone]
  | learn hphase hword => simp_all [Call.hasBrought, Call.outcome?]
  | expired | cancelledQueued | cancelled =>
      simp only [Call.hasBrought, Option.any_some, Except.isOk, Except.toBool, Bool.or_false,
        Bool.or_eq_true] at h ⊢
      exact h.imp_left Or.inl
  | _ => simp_all [Call.hasBrought, Call.outcome?, Except.isOk, Except.toBool]

theorem Move.handles_frame {frame : Value} {rest : List Message} (hmove : Move s .handle t)
    (hmail : s.mailbox = .frame frame :: rest) : t.mailbox = rest := by
  cases hmove <;> simp_all [State.note]

/-- Only a frame that the keeper takes brings anything. -/
theorem Move.brought (hmove : Move s a t) (hinner : a.isInner = true)
    (hframes : (Exchange.frames t.mailbox).length = (Exchange.frames s.mailbox).length)
    (h : t.brought n = true) : s.brought n = true := by
  obtain ⟨c', hcall', hbrought⟩ := (Option.any_eq_true _ _).mp h
  rcases progress_of_move hmove hcall' with ⟨hnone, -⟩ | ⟨c, hcall, hprogress⟩
  · have hlt := (List.getElem?_eq_some_iff.mp hcall').1
    rw [(hmove.inner hinner).1] at hlt
    exact absurd (List.getElem?_eq_none_iff.mp hnone) (Nat.not_le.mpr hlt)
  · have hhandle : ∀ frame rest, s.mailbox = .frame frame :: rest → a ≠ .handle := by
      rintro frame rest hmail rfl
      rw [hmove.handles_frame hmail, hmail, frames_frame, List.length_cons] at hframes
      exact absurd hframes (Nat.ne_of_lt (Nat.lt_succ_self _))
    rw [State.brought, hcall]
    exact hprogress.hasBrought hhandle hbrought

end ConsoleTap.Exchange
