import ConsoleTap.Proofs.Exchange.Effort
import ConsoleTap.Proofs.Session.Places

/-!
# Every session settles

The parties of a session cannot go on forever by themselves.  They run out of frames; with
no frame left, nothing new is brought, and each reply that was brought is put in its place
once; with no reply left, no fetches are begun, and whatever else is done leaves less to do;
and in between the lines of a finished job are handed over one by one.  So the four counts
fall in this order, and from every state the session comes to one in which nobody can act,
with nothing from outside and with the clock standing still.
-/

namespace ConsoleTap.Session

open ConsoleTap.Json

variable {s t : State} {a : Action} {n : Nat}

/-! ### What is counted -/

/-- The calls that the jobs wait for. -/
def State.waits (s : State) : List Nat := s.jobs.flatMap Job.calls

/-- What has to be received, taken by the keeper and taken by the dispatcher. -/
def State.framesLeft (s : State) : Nat :=
  3 * s.inbound.length + 2 * (Exchange.frames s.core.mailbox).length + s.queue.length

/-- What was brought and is not in its place yet. -/
def State.repliesLeft (s : State) : Nat := s.waits.countP s.core.brought

def RunnerPhase.effort : RunnerPhase → Nat
  | .watching => 7
  | .shutting .. => 2
  | .joining _ => 1
  | .done _ => 0

def HandlePhase.effort : HandlePhase → Nat
  | .asked => 7
  | .admitted => 6
  | .shutting _ => 1
  | .done => 0

/-- What else is left to do; those who close the exchange count as well. -/
def State.effort (s : State) : Nat :=
  s.core.effort + s.waits.length + s.jobs.length + (s.handles.map HandlePhase.effort).sum +
    s.runner.effort + s.receiving.toNat + s.expecting.toNat + s.dispatching.toNat

/-- All that is left, the weightiest first. -/
def State.remaining (s : State) : ℕ ×ₗ ℕ ×ₗ ℕ ×ₗ ℕ :=
  toLex (s.framesLeft, toLex (s.repliesLeft, toLex (s.effort, s.emitting.length)))

theorem remaining_lt (hframes : t.framesLeft ≤ s.framesLeft)
    (h : t.framesLeft < s.framesLeft ∨ t.repliesLeft ≤ s.repliesLeft ∧
      (t.repliesLeft < s.repliesLeft ∨ t.effort ≤ s.effort ∧
        (t.effort < s.effort ∨ t.emitting.length < s.emitting.length))) :
    t.remaining < s.remaining := by
  simp only [State.remaining, Prod.Lex.toLex_lt_toLex]
  omega

theorem remaining_lt_of_frames (hframes : t.framesLeft < s.framesLeft) :
    t.remaining < s.remaining :=
  remaining_lt hframes.le (Or.inl hframes)

theorem remaining_lt_of_effort (hframes : t.framesLeft = s.framesLeft)
    (hreplies : t.repliesLeft ≤ s.repliesLeft) (heffort : t.effort < s.effort) :
    t.remaining < s.remaining :=
  remaining_lt hframes.le (Or.inr ⟨hreplies, Or.inr ⟨heffort.le, Or.inl heffort⟩⟩)

/-! ### Lists of calls -/

section Counting

variable {α : Type} {p q : α → Bool} {f : α → List α} {xs : List α} {x : α}

theorem countP_flatMap_le (h : ∀ x, (f x).countP q ≤ if p x then 1 else 0) :
    (xs.flatMap f).countP q ≤ xs.countP p := by
  induction xs with
  | nil => exact le_refl _
  | cons x xs ih =>
      have hx := h x
      rw [List.flatMap_cons, List.countP_append, List.countP_cons]
      omega

theorem countP_flatMap_lt (h : ∀ x, (f x).countP q ≤ if p x then 1 else 0) (hx : x ∈ xs)
    (hp : p x = true) (hq : (f x).countP q = 0) : (xs.flatMap f).countP q < xs.countP p := by
  induction xs with
  | nil => cases hx
  | cons y xs ih =>
      have hy := h y
      have hrest : (xs.flatMap f).countP q ≤ xs.countP p := countP_flatMap_le h
      rw [List.flatMap_cons, List.countP_append, List.countP_cons]
      rcases List.mem_cons.mp hx with rfl | hx
      · rw [if_pos hp, hq]
        omega
      · have hless := ih hx
        omega

end Counting

theorem State.mem_waits {fetch : Fetch} (h : s.jobs.findSome? (Job.fetch? n) = some fetch) :
    n ∈ s.waits := by
  obtain ⟨job, hjob, hfetch⟩ := List.exists_of_findSome?_eq_some h
  exact List.mem_flatMap.mpr ⟨job, hjob, Job.mem_calls hfetch⟩

theorem State.waits_fill (s : State) (n : Nat) (part : Draft) :
    (s.jobs.map (Job.fill n part)).flatMap Job.calls =
      s.waits.flatMap fun k => if k = n then part.calls else [k] := by
  rw [State.waits, List.flatMap_map, List.flatMap_assoc]
  simp only [Job.calls_fill]

/-! ### Fetches that are begun -/

section Extended

variable {core : Exchange.State} {notices : List Notice} {handles : List String} {timeout : Nat}

theorem lt_of_brought (h : core.brought n = true) : n < core.calls.length := by
  obtain ⟨c, hcall, -⟩ := (Option.any_eq_true _ _).mp h
  exact (List.getElem?_eq_some_iff.mp hcall).1

/-- A fetch that was just begun has brought nothing. -/
theorem brought_of_extended
    (h : (extended core notices (handles.map (fetchCall timeout))).brought n = true) :
    core.brought n = true := by
  obtain ⟨c, hcall, hbrought⟩ := (Option.any_eq_true _ _).mp h
  simp only [extended] at hcall
  by_cases hn : n < core.calls.length
  · rw [List.getElem?_append_left hn] at hcall
    rw [Exchange.State.brought, hcall]
    exact hbrought
  · rw [List.getElem?_append_right (Nat.not_lt.mp hn), List.getElem?_map] at hcall
    obtain ⟨objectId, -, rfl⟩ := Option.map_eq_some_iff.mp hcall
    cases hbrought

theorem brought_extended_nil : (extended core notices []).brought = core.brought := by
  funext n
  simp [extended, Exchange.State.brought]

theorem effort_extended_nil : (extended core notices []).effort = core.effort := by
  simp [extended, Exchange.State.effort]

/-- Somebody who is to close the exchange has the whole way before him. -/
theorem effort_asked (n : Notice) :
    ({ core.note n with closers := (core.note n).closers ++ [.asked] } : Exchange.State).effort =
      core.effort + 4 := by
  simp only [Exchange.State.effort, Exchange.State.note, List.map_append, List.sum_append,
    List.map_cons, List.map_nil, List.sum_cons, List.sum_nil, Exchange.CloserPhase.effort]
  omega

end Extended

/-! ### Steps of the parties -/

theorem Move.remaining_lt_of_core {b : Exchange.Action} (hmove : Move s (.core b) t) :
    t.remaining < s.remaining := by
  cases hmove with
  | core hinner hstep =>
      rename_i core
      have hcore := Exchange.move_of_step hstep
      have hforwarded := hcore.forwarded_le hinner
      rcases hcore.effort_lt hinner with hless | ⟨hsame, hless⟩
      · have hframes : State.framesLeft { s with core := core } < s.framesLeft := by
          simp only [State.framesLeft, State.queue, List.length_drop]
          omega
        exact remaining_lt hframes.le (Or.inl hframes)
      · refine remaining_lt ?_ (Or.inr ⟨?_, Or.inr ⟨?_, Or.inl ?_⟩⟩)
        · simp only [State.framesLeft, State.queue, List.length_drop]
          omega
        · exact List.countP_mono_left fun n _ h => hcore.brought hinner hsame h
        · simp only [State.effort, State.waits]
          omega
        · simp only [State.effort, State.waits]
          omega

theorem Move.remaining_lt_of_receive (hmove : Move s .receive t) : t.remaining < s.remaining := by
  apply remaining_lt_of_frames
  cases hmove with
  | receive hreceiving hinbound hread hroute =>
      cases Exchange.move_of_step hroute with
      | route frame hopen =>
          simp only [State.framesLeft, State.queue, hinbound, List.length_cons,
            Exchange.frames_append, Exchange.frames_frame, Exchange.frames_nil,
            List.length_append, List.length_nil]
          omega
      | routeLate frame hshut =>
          simp only [State.framesLeft, State.queue, hinbound, List.length_cons,
            Exchange.State.note]
          omega
  | receiveMalformed n hreceiving hinbound hread =>
      simp only [State.framesLeft, State.queue, hinbound, List.length_cons, Exchange.State.note]
      omega
  | receiveEnd n hreceiving hinbound hx =>
      simp only [State.framesLeft, State.queue, hinbound, List.length_cons, Exchange.State.note]
      omega

section Grow

variable {part : Draft}
  (hwaits : t.waits = s.waits.flatMap fun k => if k = n then part.calls else [k])
  (hnew : ∀ k ∈ part.calls, s.core.calls.length ≤ k) (hn : n ∈ s.waits)
include hwaits hnew hn

/-- In the place of an outcome stands what it leaves, which has brought nothing yet. -/
theorem repliesLeft_grow (hbrought : ∀ k, t.core.brought k = true → s.core.brought k = true) :
    t.repliesLeft ≤ s.repliesLeft ∧
      (s.core.brought n = true → t.repliesLeft < s.repliesLeft) := by
  have hplace : part.calls.countP t.core.brought = 0 := by
    rw [List.countP_eq_zero]
    exact fun k hk h => Nat.not_lt.mpr (hnew k hk) (lt_of_brought (hbrought k h))
  have hle : ∀ k, (if k = n then part.calls else [k]).countP t.core.brought ≤
      if s.core.brought k then 1 else 0 := by
    intro k
    by_cases hk : k = n
    · rw [if_pos hk, hplace]
      exact Nat.zero_le _
    · rw [if_neg hk, List.countP_singleton]
      split
      · rename_i h
        rw [if_pos (hbrought k h)]
      · exact Nat.zero_le _
  rw [State.repliesLeft, State.repliesLeft, hwaits]
  refine ⟨countP_flatMap_le hle, fun h => countP_flatMap_lt hle hn h ?_⟩
  rw [if_pos rfl, hplace]

omit hnew in
/-- An outcome that leaves no place has one place less. -/
theorem length_waits_grow (hnone : part.calls = []) : t.waits.length < s.waits.length := by
  have hle : ∀ k, (if k = n then part.calls else [k]).countP (fun _ => true) ≤
      if true then 1 else 0 := by
    intro k
    rw [hnone]
    split <;> simp
  have hless := countP_flatMap_lt hle hn rfl (by rw [if_pos rfl, hnone, List.countP_nil])
  rwa [← hwaits, List.countP_true] at hless

end Grow

theorem remaining_lt_of_grow {outcome : Exchange.Outcome} {fetch : Fetch}
    (houtcome : s.core.outcome? n = some outcome)
    (hfetch : s.jobs.findSome? (Job.fetch? n) = some fetch)
    (ht : t = { s with
      core := extended s.core (fetch.grow s.core.calls.length outcome).notice.toList
        ((fetch.grow s.core.calls.length outcome).handles.map (fetchCall s.options.fetchTimeout))
      jobs := s.jobs.map (Job.fill n (fetch.grow s.core.calls.length outcome).part) }) :
    t.remaining < s.remaining := by
  have hwaits : t.waits = s.waits.flatMap fun k =>
      if k = n then (fetch.grow s.core.calls.length outcome).part.calls else [k] := by
    rw [State.waits, ht]
    exact State.waits_fill s n _
  have hframes : t.framesLeft = s.framesLeft := by rw [ht]; rfl
  have hreplies := repliesLeft_grow hwaits (fun k hk => (Fetch.calls_grow hk).1)
    (State.mem_waits hfetch) (fun k h => brought_of_extended (by rwa [ht] at h))
  refine remaining_lt hframes.le (Or.inr ⟨hreplies.1, ?_⟩)
  cases outcome with
  | ok v => exact Or.inl (hreplies.2 (Exchange.State.brought_of_outcome houtcome))
  | error cause =>
      have hnone : (fetch.grow s.core.calls.length (.error cause)).part.calls = [] := by
        rw [List.eq_nil_iff_forall_not_mem]
        intro k hk
        obtain ⟨-, v, hv⟩ := Fetch.calls_grow hk
        cases hv
      have hless := length_waits_grow hwaits (State.mem_waits hfetch) hnone
      have hhandles : (fetch.grow s.core.calls.length (.error cause)).handles = [] := rfl
      have heffort : t.core.effort = s.core.effort := by
        rw [ht, hhandles, List.map_nil]
        exact effort_extended_nil
      have hlength : t.jobs.length = s.jobs.length := by rw [ht, List.length_map]
      have hrest : t.effort < s.effort := by
        simp only [State.effort, heffort, hlength]
        rw [ht] at hless ⊢
        simp only at hless ⊢
        omega
      exact Or.inr ⟨hrest.le, Or.inl hrest⟩

theorem Move.remaining_lt_of_take (hmove : Move s .take t) : t.remaining < s.remaining := by
  cases hmove with
  | take hexpecting hqueue hjob =>
      have hrest := congrArg List.length hqueue
      simp only [State.queue, List.length_drop, List.length_cons] at hrest
      apply remaining_lt_of_frames
      simp only [State.framesLeft, State.queue, extended, List.length_drop]
      omega

theorem Move.remaining_lt_of_collect (hmove : Move s .collect t) : t.remaining < s.remaining := by
  cases hmove with
  | collect hemitting hjobs hlines =>
      refine remaining_lt_of_effort rfl ?_ ?_
      · simp only [State.repliesLeft, State.waits, hjobs, List.flatMap_cons, List.countP_append]
        omega
      · simp only [State.effort, State.waits, hjobs, List.flatMap_cons, List.length_append,
          List.length_cons]
        omega

theorem Move.remaining_lt_of_emit (hmove : Move s .emit t) : t.remaining < s.remaining := by
  cases hmove with
  | emit hemitting =>
      refine remaining_lt (le_refl _) (Or.inr ⟨?_, Or.inr ⟨?_, Or.inr ?_⟩⟩)
      · simp only [State.repliesLeft, State.waits, brought_extended_nil, le_refl]
      · simp only [State.effort, State.waits, effort_extended_nil, le_refl]
      · simp only [hemitting, List.length_cons, Nat.lt_succ_self]

theorem Move.remaining_lt_of_observe {how : Ending} (hmove : Move s (.observe how) t) :
    t.remaining < s.remaining := by
  cases hmove with
  | observe hrunner hend hask =>
      obtain rfl := Option.some.inj hask
      refine remaining_lt_of_effort rfl (le_refl _) ?_
      simp only [State.effort, State.waits, effort_asked, hrunner, RunnerPhase.effort]
      omega

theorem Move.remaining_lt_of_handle {closeFault : Option TransportFault}
    (hmove : Move s (.handle n closeFault) t) : t.remaining < s.remaining := by
  cases hmove with
  | look hhandle =>
      refine remaining_lt_of_effort rfl (le_refl _) ?_
      have hless : (if s.core.closed then HandlePhase.done else .admitted).effort ≤ 6 := by
        split <;> decide
      have hsum := Exchange.sum_map_set (g := HandlePhase.effort) hhandle
        (if s.core.closed then .done else .admitted)
      simp only [HandlePhase.effort] at hsum hless
      simp only [State.effort, State.waits]
      omega
  | shut hhandle hask =>
      obtain rfl := Option.some.inj hask
      refine remaining_lt_of_effort rfl (le_refl _) ?_
      have hsum := Exchange.sum_map_set (g := HandlePhase.effort) hhandle
        (.shutting s.core.closers.length)
      simp only [HandlePhase.effort] at hsum
      simp only [State.effort, State.waits, effort_asked]
      omega
  | closeChannel hhandle hdone =>
      refine remaining_lt_of_effort rfl ?_ ?_
      · simp only [State.repliesLeft, State.waits, brought_extended_nil, le_refl]
      · have hsum := Exchange.sum_map_set (g := HandlePhase.effort) hhandle .done
        simp only [HandlePhase.effort] at hsum
        simp only [State.effort, State.waits, effort_extended_nil]
        omega

theorem Move.remaining_lt (hmove : Move s a t) (hinner : a.isInner = true) :
    t.remaining < s.remaining := by
  cases a with
  | core b => exact hmove.remaining_lt_of_core
  | receive => exact hmove.remaining_lt_of_receive
  | take => exact hmove.remaining_lt_of_take
  | collect => exact hmove.remaining_lt_of_collect
  | emit => exact hmove.remaining_lt_of_emit
  | handle n closeFault => exact hmove.remaining_lt_of_handle
  | grow n =>
      cases hmove with
      | grow houtcome hfetch hgrowth => exact remaining_lt_of_grow houtcome hfetch (by rw [hgrowth])
  | ceaseReceiving =>
      cases hmove with
      | ceaseReceiving hreceiving hclosed =>
          refine remaining_lt_of_effort rfl (le_refl _) ?_
          simp only [State.effort, State.waits, hreceiving, Bool.toNat_true, Bool.toNat_false]
          omega
  | expectNone =>
      cases hmove with
      | expectNone hexpecting hqueue hkeeper =>
          refine remaining_lt_of_effort rfl (le_refl _) ?_
          simp only [State.effort, State.waits, hexpecting, Bool.toNat_true, Bool.toNat_false]
          omega
  | ceaseDispatching =>
      cases hmove with
      | ceaseDispatching hdispatching hexpecting hjobs hemitting =>
          refine remaining_lt_of_effort rfl (le_refl _) ?_
          simp only [State.effort, State.waits, hdispatching, Bool.toNat_true, Bool.toNat_false]
          omega
  | observe how => exact hmove.remaining_lt_of_observe
  | join =>
      cases hmove with
      | join hrunner hdone =>
          refine remaining_lt_of_effort rfl (le_refl _) ?_
          simp only [State.effort, State.waits, hrunner, RunnerPhase.effort]
          omega
  | finish =>
      cases hmove with
      | finish hrunner hfinished =>
          refine remaining_lt_of_effort rfl (le_refl _) ?_
          simp only [State.effort, State.waits, hrunner, RunnerPhase.effort]
          omega
  | _ => cases hinner

/-! ### Coming to rest -/

/-- A party acts in the second state, and the first one is where that leads. -/
def Acts (t s : State) : Prop := ∃ a : Action, a.isInner = true ∧ Step s a t

theorem wellFounded_acts : WellFounded Acts := by
  apply Subrelation.wf (r := InvImage (· < ·) State.remaining)
  · rintro t s ⟨a, hinner, hstep⟩
    exact (move_of_step hstep).remaining_lt hinner
  · exact InvImage.wf _ wellFounded_lt

/-- From every state the parties come, by themselves, to one in which nobody can act. -/
theorem exists_settled (s : State) :
    ∃ bs t, (∀ b ∈ bs, b.isInner = true) ∧ run? s bs = some t ∧ Settled t := by
  induction s using wellFounded_acts.induction with
  | _ s ih =>
    by_cases hsettled : Settled s
    · exact ⟨[], s, nofun, rfl, hsettled⟩
    · simp only [Settled, not_forall] at hsettled
      obtain ⟨a, hinner, hnone⟩ := hsettled
      obtain ⟨u, hstep⟩ := Option.ne_none_iff_exists'.mp hnone
      obtain ⟨bs, t, hbs, hrun, hsettled⟩ := ih u ⟨a, hinner, hstep⟩
      refine ⟨a :: bs, t, List.forall_mem_cons.mpr ⟨hinner, hbs⟩, ?_, hsettled⟩
      rw [run?, hstep, Option.bind_some, hrun]

end ConsoleTap.Session
