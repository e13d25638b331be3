import ConsoleTap.Proofs.Session.Order
import ConsoleTap.Proofs.Session.Quiet
import ConsoleTap.Proofs.Session.Undisturbed
import Mathlib

/-!
# A session does what a sequential dispatcher does

When nobody can act any more in an undisturbed session, it has handed over the lines
that one gets by printing the frames one after another from a source that answers at
once, and it has asked for the same objects as often.
-/

namespace ConsoleTap.Session

open ConsoleTap.Json ConsoleTap.Target ConsoleTap.Print
open ConsoleTap.Exchange (Outcome replyId?)

variable {table : PropertyTable} {options : Options} {s : State} {as : List Action}
  {groups : List (List String)}

/-! ### The calls of several frames -/

/-- The calls are those that were begun for the frames up to that number, each of them once, and
    they fetch what they are said to. -/
structure OwnedBelow (options : Options) (as : List Action) (s : State) (k : Nat)
    (fetches : Fetches) : Prop where
  nodup : (fetches.map Prod.fst).Nodup
  begun : ∀ n, n ∈ fetches.map Prod.fst ↔ ∃ i < k, BegunFor options as i n
  fetch : ∀ x ∈ fetches, s.IsFetch x.1 x.2

theorem ownedBelow_zero : OwnedBelow options as s 0 [] :=
  ⟨List.nodup_nil, by simp, by simp⟩

theorem OwnedBelow.append {k : Nat} {all fetches : Fetches} (h : OwnedBelow options as s k all)
    (howned : Owned options as s k fetches) : OwnedBelow options as s (k + 1) (all ++ fetches) where
  nodup := by
    rw [List.map_append, List.nodup_append]
    refine ⟨h.nodup, howned.nodup, ?_⟩
    rintro n hn _ hn' rfl
    obtain ⟨i, hi, hbegun⟩ := (h.begun n).mp hn
    exact absurd (hbegun.unique ((howned.begun n).mp hn')) (Nat.ne_of_lt hi)
  begun n := by
    rw [List.map_append, List.mem_append, h.begun, howned.begun]
    constructor
    · rintro (⟨i, hi, hbegun⟩ | hbegun)
      · exact ⟨i, Nat.lt_succ_of_lt hi, hbegun⟩
      · exact ⟨k, Nat.lt_succ_self k, hbegun⟩
    · rintro ⟨i, hi, hbegun⟩
      rcases Nat.lt_succ_iff_lt_or_eq.mp hi with hi | rfl
      · exact Or.inl ⟨i, hi, hbegun⟩
      · exact Or.inr hbegun
  fetch x hx := by
    rcases List.mem_append.mp hx with hx | hx
    · exact h.fetch x hx
    · exact howned.fetch x hx

/-! ### Nothing is left to do -/

section Undisturbed

variable (h : Undisturbed table options as s) (hrun : run? (opened options) as = some s)
  (hsettled : Settled s)
include h hrun hsettled

theorem Undisturbed.no_fetch (n : Nat) : s.jobs.findSome? (Job.fetch? n) = none := by
  cases hfetch : s.jobs.findSome? (Job.fetch? n) with
  | none => rfl
  | some fetch =>
      obtain ⟨groups, hdispatched⟩ := dispatched_of_run hrun
      obtain ⟨i, hbegun⟩ := hdispatched.begunFor hfetch
      obtain ⟨objectId, hisfetch⟩ := hbegun.isFetch hrun
      obtain ⟨c, -, hcall, -⟩ := hisfetch.call
      obtain ⟨o, hdone⟩ := h.fetch_over hrun hsettled hisfetch hcall
      obtain ⟨job, hmem, hplace⟩ := List.exists_of_findSome?_eq_some hfetch
      have hnone := hsettled.outcome_eq_none hmem hplace
      rw [Exchange.outcome?_of_done hcall hdone] at hnone
      cases hnone

theorem Undisturbed.quiet (hdispatched : Dispatched options as s groups) :
    s.emissions.map Emission.line = groups.flatten ∧ groups.length = s.core.forwarded.length := by
  have hjobs : s.jobs = [] := by
    cases hjobs : s.jobs with
    | nil => rfl
    | cons job rest =>
        obtain ⟨n, fetch, hfetch⟩ := hsettled.exists_fetch hdispatched hjobs
        have hnone := h.no_fetch hrun hsettled n
        rw [hjobs, List.findSome?_cons, hfetch] at hnone
        cases hnone
  exact hdispatched.output_all (hsettled.queue hrun) hjobs hsettled.emitting

/-! ### Frame by frame -/

omit hsettled in
/-- What is handed over for a frame, and what is fetched for it, is what one gets from a source
    that answers at once. -/
theorem Undisturbed.printed {i : Nat} {lines : List String} (hgroup : Group options as s i lines) :
    ∃ frame fetches, s.core.forwarded[i]? = some frame ∧ Owned options as s i fetches ∧
      lines = (Printed.ofFrame table.source options.maxDepth frame).lines ∧
      fetches.map Prod.snd = (Printed.ofFrame table.source options.maxDepth frame).fetched := by
  obtain ⟨log, hcore⟩ := exists_log_of_run hrun
  obtain ⟨frame, fetches, hframe, howned, hlines⟩ := hgroup
  have hagrees : Agrees s.core.outcome? table.source fetches := by
    intro x hx o ho
    obtain ⟨c, hcall, hdone⟩ := Exchange.done_of_outcome? ho
    exact (h.outcome hrun hcore (howned.fetch x hx) hcall hdone).2
  exact ⟨frame, fetches, hframe, howned, hlines.eq_printed hagrees⟩

theorem Undisturbed.groups_eq (hdispatched : Dispatched options as s groups) :
    groups = s.core.forwarded.map fun frame =>
      (Printed.ofFrame table.source options.maxDepth frame).lines := by
  obtain ⟨-, hlength⟩ := h.quiet hrun hsettled hdispatched
  apply List.ext_getElem
  · rw [hlength, List.length_map]
  intro i hi _
  obtain ⟨frame, fetches, hframe, -, hlines, -⟩ :=
    h.printed hrun (hdispatched.group (List.getElem?_eq_getElem hi))
  obtain ⟨hlt, rfl⟩ := List.getElem?_eq_some_iff.mp hframe
  rw [hlines, List.getElem_map]

omit hsettled in
theorem Undisturbed.exists_fetches (hdispatched : Dispatched options as s groups) {k : Nat}
    (hk : k ≤ groups.length) :
    ∃ fetches, OwnedBelow options as s k fetches ∧
      fetches.map Prod.snd = (s.core.forwarded.take k).flatMap fun frame =>
        (Printed.ofFrame table.source options.maxDepth frame).fetched := by
  induction k with
  | zero => exact ⟨[], ownedBelow_zero, by simp⟩
  | succ k ih =>
      obtain ⟨all, hall, hobjects⟩ := ih (Nat.le_of_succ_le hk)
      obtain ⟨frame, fetches, hframe, howned, -, hfetched⟩ :=
        h.printed hrun (hdispatched.group (List.getElem?_eq_getElem hk))
      refine ⟨all ++ fetches, hall.append howned, ?_⟩
      rw [List.map_append, hobjects, hfetched, List.take_add_one, hframe, List.flatMap_append]
      simp

/-! ### All calls -/

/-- The callers that have written are those whose calls were begun for a frame, but for the ones
    that opened the session. -/
theorem Undisturbed.mem_ledger_iff {log : List Notice} {n : Nat} {fetches : Fetches}
    (hcore : Exchange.run? {} (coreRun options as) = some { s.core with log := log })
    (hfetches : OwnedBelow options as s s.taken fetches) (hlow : 3 ≤ n) :
    n ∈ (Exchange.ledger (coreRun options as)).map Prod.fst ↔ n ∈ fetches.map Prod.fst := by
  rw [hfetches.begun]
  constructor
  · intro hn
    obtain ⟨⟨n, w⟩, hw, rfl⟩ := List.mem_map.mp hn
    obtain ⟨c, hcall, -⟩ := (Exchange.ledger_of_run hcore).call hw
    obtain ⟨i, hbegun⟩ := exists_begunFor hrun hlow (List.getElem?_eq_some_iff.mp hcall).1
    exact ⟨i, hbegun.lt_taken hrun, hbegun⟩
  · rintro ⟨i, -, hbegun⟩
    obtain ⟨objectId, hfetch⟩ := hbegun.isFetch hrun
    obtain ⟨c, -, hcall, -⟩ := hfetch.call
    obtain ⟨o, hdone⟩ := h.fetch_over hrun hsettled hfetch hcall
    exact (Exchange.ledger_of_run hcore).complete hcall (h.outcome hrun hcore hfetch hcall hdone).1

/-- What was asked for is what the calls of all frames fetch, in some order. -/
theorem Undisturbed.asked_perm {fetches : Fetches}
    (hfetches : OwnedBelow options as s s.taken fetches) :
    (s.asked.map Prod.snd).Perm (fetches.map Prod.snd) := by
  obtain ⟨log, hcore⟩ := exists_log_of_run hrun
  have hobjects : fetches.map Prod.snd = (fetches.map Prod.fst).filterMap s.object? := by
    rw [List.filterMap_map, ← List.filterMap_eq_map]
    exact List.filterMap_congr fun x hx => (hfetches.fetch x hx).object?.symm
  -- the calls that opened the session fetch nothing
  have hasked : s.asked.map Prod.snd =
      (((Exchange.ledger (coreRun options as)).map Prod.fst).filter fun n =>
        decide (3 ≤ n)).filterMap s.object? := by
    rw [map_asked hcore h.accepted, List.filterMap_filter]
    apply List.filterMap_congr
    intro n _
    by_cases hlow : 3 ≤ n
    · simp [hlow]
    · simp [hlow, object?_of_opening hrun (Nat.not_le.mp hlow)]
  rw [hasked, hobjects]
  apply List.Perm.filterMap
  apply (List.perm_ext_iff_of_nodup ((Exchange.ledger_of_run hcore).nodup.filter _)
    hfetches.nodup).mpr
  intro n
  rw [List.mem_filter, decide_eq_true_eq]
  constructor
  · rintro ⟨hn, hlow⟩
    exact (h.mem_ledger_iff hrun hsettled hcore hfetches hlow).mp hn
  · intro hn
    obtain ⟨i, -, hbegun⟩ := (hfetches.begun n).mp hn
    exact ⟨(h.mem_ledger_iff hrun hsettled hcore hfetches hbegun.le).mpr hn, hbegun.le⟩

end Undisturbed

/-- A session whose target answers every command that asks for properties with what a table has
    for the object, in any order, has handed over, when nobody can act any more, what a source
    that answers at once from that table gives for the frames one after another, and has asked
    for the same objects as often. -/
theorem output_eq_sequential {sink : Exchange.Sink} {s₀ : State}
    (hstart : State.start options sink = .ok s₀) (hrun : run? s₀ as = some s)
    (hundisturbed : Undisturbed table options as s) (hsettled : Settled s) :
    s.emissions.map Emission.line =
        (s.eventFrames as).flatMap (fun frame =>
          (Printed.ofFrame table.source options.maxDepth frame).lines) ∧
      (s.asked.map Prod.snd).Perm ((s.eventFrames as).flatMap fun frame =>
        (Printed.ofFrame table.source options.maxDepth frame).fetched) := by
  obtain rfl := start_eq_opened hstart
  obtain ⟨groups, hdispatched⟩ := dispatched_of_run hrun
  obtain ⟨hemissions, hlength⟩ := hundisturbed.quiet hrun hsettled hdispatched
  have hforwarded := hundisturbed.forwarded_eq hrun hsettled
  constructor
  · rw [hemissions, hundisturbed.groups_eq hrun hsettled hdispatched, ← hforwarded,
      List.flatMap_def]
  · have htaken : s.taken = groups.length := by
      have := hdispatched.taken_eq
      have := hdispatched.taken_le
      omega
    obtain ⟨fetches, hfetches, hobjects⟩ :=
      hundisturbed.exists_fetches hrun hdispatched (Nat.le_refl groups.length)
    rw [hlength, List.take_length, hforwarded] at hobjects
    rw [← hobjects]
    exact hundisturbed.asked_perm hrun hsettled (htaken ▸ hfetches)

/-- Whether an open session has nothing to do before something arrives. -/
def State.isIdle (s : State) : Bool :=
  s.core.isIdle && !s.core.closed && s.receiving && s.inbound.isEmpty && s.queue.isEmpty &&
    s.jobs.isEmpty && s.emitting.isEmpty && s.expecting && s.handles.isEmpty &&
    s.runner == .watching

theorem settled_of_isIdle {s : State} (h : s.isIdle = true) : Settled s := by
  simp only [State.isIdle, Bool.and_eq_true, List.isEmpty_iff, beq_iff_eq,
    Bool.not_eq_true'] at h
  obtain ⟨⟨⟨⟨⟨⟨⟨⟨⟨hcore, hclosed⟩, hreceiving⟩, hinbound⟩, hqueue⟩, hjobs⟩, hemitting⟩,
    hexpecting⟩, hhandles⟩, hrunner⟩ := h
  have hkeeper : s.core.keeper = .running := by simp_all [Exchange.State.isIdle]
  intro a ha
  cases a with
  | core b =>
      simp only [step?]
      split
      · rename_i hinner
        rw [Exchange.settled_of_isIdle hcore b hinner, Option.map_none]
      · rfl
  | observe how => cases how <;> simp [step?, State.canObserve, hreceiving, hclosed]
  | grow n => simp [step?, State.growCall?, hjobs]
  | handle n closeFault => simp [step?, State.handleStep?, hhandles]
  | collect => simp [step?, State.collect?, hemitting, hjobs]
  | emit => simp [step?, State.emit?, hemitting]
  | arrive | close | breakOutput | tick => cases ha
  | _ => simp [step?, hreceiving, hinbound, hclosed, hqueue, hexpecting, hkeeper, hrunner]

/-- Two console calls, whose values the target describes in the reverse order. -/
def swappedRun : List Action :=
  [.arrive (.frame (callFrame "7").compact), .receive, .core .handle, .take,
    .arrive (.frame (callFrame "8").compact), .receive, .core .handle, .take,
    .core (.caller 3 none), .core (.caller 3 none), .core (.caller 3 none), .core (.caller 3 none),
    .core (.caller 4 none), .core (.caller 4 none), .core (.caller 4 none), .core (.caller 4 none),
    .core .handle, .core .handle,
    .arrive (.frame (replyFrame 5 [propertyNamed "x" 1]).compact),
    .arrive (.frame (replyFrame 4 []).compact), .receive, .receive, .core .handle, .core .handle,
    .core (.caller 4 none), .grow 4, .core (.caller 3 none), .grow 3, .collect, .emit, .emit,
    .collect, .emit, .emit, .emit, .emit]

/-- The properties of one object, and none of the others. -/
def swappedTable : PropertyTable := fun objectId =>
  if objectId = "8" then
    .ok [⟨"x", some ⟨some "number", none, none, some (.integer 1), none, none, none⟩⟩]
  else .ok []

/-- The lines of the first call come first. -/
def swappedLines : List String :=
  ["[console.log]", "    \x7b\x7d", "[console.log]", "    \x7b", "      \"x\": 1", "    \x7d"]

/-- What arrives in the run, which commands had asked for properties by then, when a request is
    overdue, and where the run leads. -/
theorem swappedRun_eval :
    (arrived swappedRun,
      Run.along step? (fun s a => a.arrived?.toList.map fun frame => (frame, s.asked)) (opened {})
        swappedRun,
      Run.along step? (fun s _ => if s.core.hasOverdue then [()] else []) (opened {}) swappedRun,
      (run? (opened {}) swappedRun).map fun s =>
        (s.isIdle, s.core.closed, s.core.writes.all fun w => w.refusal.isNone, s.asked,
          s.emissions.map Emission.line)) =
      ([callFrame "7", callFrame "8", replyFrame 5 [propertyNamed "x" 1], replyFrame 4 []],
        [(callFrame "7", []), (callFrame "8", []),
          (replyFrame 5 [propertyNamed "x" 1], [(4, "7"), (5, "8")]),
          (replyFrame 4 [], [(4, "7"), (5, "8")])],
        [], some (true, false, true, [(4, "7"), (5, "8")], swappedLines)) := by
  cbv

theorem swappedRun_undisturbed {s : State} (hrun : run? (opened {}) swappedRun = some s) :
    Undisturbed swappedTable {} swappedRun s ∧ Settled s ∧
      s.asked = [(4, "7"), (5, "8")] ∧ s.emissions.map Emission.line = swappedLines := by
  have heval := swappedRun_eval
  simp only [hrun, Option.map_some, Prod.mk.injEq, Option.some.injEq] at heval
  obtain ⟨harrived, hmoments, hpatient, hidle, hopen, haccepted, hasked, hlines⟩ := heval
  refine ⟨⟨?_, ?_, ?_, ?_, ?_, ?_⟩, settled_of_isIdle hidle, hasked, hlines⟩
  · intro x hx
    simp only [swappedRun, List.mem_cons, Action.arrive.injEq, reduceCtorEq, List.not_mem_nil,
      or_false, false_or] at hx
    rcases hx with rfl | rfl | rfl | rfl <;> exact ⟨_, rfl⟩
  · exact hopen
  · simpa [List.all_eq_true] using haccepted
  · intro m hm
    have hnone := Run.Moment.In.along_snoc_prefix
      (fun s _ => if s.core.hasOverdue then [()] else []) hm
    rw [hpatient, List.prefix_nil, List.append_eq_nil_iff] at hnone
    cases hoverdue : m.state.core.hasOverdue with
    | false => rfl
    | true => simp [hoverdue] at hnone
  · intro id objectId hmem
    rw [hasked] at hmem
    rw [harrived]
    simp only [List.mem_cons, Prod.mk.injEq, List.not_mem_nil, or_false] at hmem
    rcases hmem with ⟨rfl, -⟩ | ⟨rfl, -⟩ <;> rfl
  · intro m frame id objectId hm harrival hmem hreply
    have hmoment := (Run.Moment.In.along_snoc_prefix
      (fun s a => a.arrived?.toList.map fun frame => (frame, s.asked)) hm).subset
        (List.mem_append_right _ (List.mem_map_of_mem (Option.mem_toList.mpr harrival)))
    rw [hmoments] at hmoment
    rw [hasked] at hmem
    simp only [List.mem_cons, Prod.mk.injEq, List.not_mem_nil, or_false] at hmem hmoment
    -- the calls are no replies, and each reply comes for one of the commands
    rcases hmoment with ⟨rfl, -⟩ | ⟨rfl, -⟩ | ⟨rfl, heq⟩ | ⟨rfl, heq⟩
    · cases hreply
    · cases hreply
    · have hid := Option.some.inj hreply
      rcases hmem with ⟨rfl, rfl⟩ | ⟨rfl, rfl⟩
      · cases hid
      · exact ⟨by simp [heq], rfl⟩
    · have hid := Option.some.inj hreply
      rcases hmem with ⟨rfl, rfl⟩ | ⟨rfl, rfl⟩
      · exact ⟨by simp [heq], rfl⟩
      · cases hid

theorem output_eq_sequential_swapped :
    State.start {} {} = .ok (opened {}) ∧
      ∃ s, run? (opened {}) swappedRun = some s ∧ Undisturbed swappedTable {} swappedRun s ∧
        Settled s ∧
        (s.eventFrames swappedRun).flatMap (fun frame =>
          (Printed.ofFrame swappedTable.source 2 frame).lines) = swappedLines ∧
        ["7", "8"].Perm ((s.eventFrames swappedRun).flatMap fun frame =>
          (Printed.ofFrame swappedTable.source 2 frame).fetched) := by
  have heval := swappedRun_eval
  simp only [Prod.mk.injEq] at heval
  obtain ⟨s, hrun, -⟩ := Option.map_eq_some_iff.mp heval.2.2.2
  obtain ⟨hundisturbed, hsettled, hasked, hlines⟩ := swappedRun_undisturbed hrun
  obtain ⟨houtput, hperm⟩ := output_eq_sequential start_default hrun hundisturbed hsettled
  rw [hasked] at hperm
  exact ⟨start_default, s, hrun, hundisturbed, hsettled, houtput.symm.trans hlines, hperm⟩

end ConsoleTap.Session
