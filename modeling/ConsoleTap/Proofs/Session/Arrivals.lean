import ConsoleTap.Proofs.Session.Output

/-!
# What arrives is received

As long as the channel brings frames only and the session is not closed, the receiver
hands over all that has arrived, in order.  A frame that arrives at the exchange at some
moment of its run was handed over at a moment of the session's run, in the same state.
-/

namespace ConsoleTap.Session

open ConsoleTap.Json

variable {options : Options} {s t : State} {a : Action} {as : List Action} {frame : Value}

/-! ### Arrivals -/

/-- The frame that an arrival is, if it is one. -/
def Arrival.frame? : Arrival → Option Value
  | .frame text =>
      match Json.read? text with
      | some (.object ms) => some (.object ms)
      | _ => none
  | .failure _ | .hangUp => none

/-- The frame that arrives by an action. -/
def Action.arrived? : Action → Option Value
  | .arrive x => x.frame?
  | _ => none

/-- The frames that arrive in a run, in order. -/
def arrived (as : List Action) : List Value := as.filterMap Action.arrived?

/-- What waits for the receiver are texts, and it takes them unless the session is closed. -/
structure Receiving (s : State) : Prop where
  receiving : s.core.closed = false → s.receiving = true
  hungUp : s.hungUp = false
  inbound : ∀ x ∈ s.inbound, ∃ text, x = .frame text

theorem Receiving.same (h : Receiving s) (hmove : Move s a t)
    (hreceiving : t.receiving = s.receiving) (hhungUp : t.hungUp = s.hungUp)
    (hinbound : t.inbound = s.inbound) : Receiving t where
  receiving ht := by
    rw [hreceiving]
    apply h.receiving
    cases hclosed : s.core.closed with
    | false => rfl
    | true => exact ((hmove.lasts.closed hclosed).symm.trans ht)
  hungUp := hhungUp.trans h.hungUp
  inbound := by
    rw [hinbound]
    exact h.inbound

/-- The frames that wait for the receiver. -/
def State.waiting (s : State) : List Value := s.inbound.filterMap Arrival.frame?

theorem Receiving.step (h : Receiving s) (hmove : Move s a t)
    (hframes : ∀ x, a = .arrive x → ∃ text, x = .frame text) :
    Receiving t ∧ s.waiting ++ a.arrived?.toList = routedFrame s a ++ t.waiting := by
  have hkept := h.same hmove
  cases hmove with
  | arrive x hhungUp =>
      obtain ⟨text, rfl⟩ := hframes x rfl
      refine ⟨⟨h.receiving, by simp, ?_⟩, ?_⟩
      · intro y hy
        rcases List.mem_append.mp hy with hy | hy
        · exact h.inbound y hy
        · exact ⟨text, List.mem_singleton.mp hy⟩
      · cases hframe : Arrival.frame? (.frame text) <;>
          simp [State.waiting, Action.arrived?, routedFrame, hframe]
  | arriveLate x hhungUp =>
      rw [h.hungUp] at hhungUp
      cases hhungUp
  | receive hreceiving hinbound hread hroute =>
      rename_i text ms rest core
      have hrest : ∀ x ∈ rest, ∃ text, x = .frame text := fun x hx =>
        h.inbound x (hinbound ▸ List.mem_cons_of_mem _ hx)
      refine ⟨⟨fun _ => hreceiving, h.hungUp, hrest⟩, ?_⟩
      simp [State.waiting, Action.arrived?, routedFrame, hreceiving, hinbound, hread,
        Arrival.frame?]
  | receiveMalformed n hreceiving hinbound hread =>
      rename_i text rest
      have hrest : ∀ x ∈ rest, ∃ text, x = .frame text := fun x hx =>
        h.inbound x (hinbound ▸ List.mem_cons_of_mem _ hx)
      have hnone : Arrival.frame? (.frame text) = none := by
        rw [Arrival.frame?]
        split
        · rename_i ms heq
          exact absurd heq (hread ms)
        · rfl
      refine ⟨⟨fun _ => hreceiving, h.hungUp, hrest⟩, ?_⟩
      have hrouted : routedFrame s .receive = [] := by
        rw [routedFrame, hreceiving, hinbound]
        dsimp only
        split
        · rename_i ms heq
          exact absurd heq (hread ms)
        · rfl
      simp [State.waiting, Action.arrived?, hrouted, hinbound, hnone]
  | receiveEnd n hreceiving hinbound hx =>
      rename_i x rest
      obtain ⟨text, rfl⟩ := h.inbound x (hinbound ▸ List.mem_cons_self)
      exact absurd rfl (hx text)
  | ceaseReceiving hreceiving hclosed =>
      refine ⟨⟨fun hopen => ?_, h.hungUp, h.inbound⟩,
        by simp [State.waiting, Action.arrived?, routedFrame]⟩
      rw [hclosed] at hopen
      cases hopen
  | _ => exact ⟨hkept rfl rfl rfl, by simp [State.waiting, Action.arrived?, routedFrame]⟩

/-- What has arrived was received, or waits for the receiver. -/
theorem arrived_eq (hrun : run? (opened options) as = some s)
    (hframes : ∀ x, .arrive x ∈ as → ∃ text, x = .frame text) :
    Receiving s ∧ arrived as = routedFrames options as ++ s.waiting := by
  rw [run?_eq_follow] at hrun
  refine Run.follow_induction
    (motive := fun as s => (∀ x, .arrive x ∈ as → ∃ text, x = .frame text) →
      Receiving s ∧ arrived as = routedFrames options as ++ s.waiting) ?_ ?_ hrun hframes
  · exact fun _ => ⟨⟨fun _ => rfl, rfl, by simp [opened]⟩, rfl⟩
  · intro as u a v hrun hstep ih hframes
    obtain ⟨hu, heq⟩ := ih fun x hx => hframes x (List.mem_append_left _ hx)
    obtain ⟨hv, hwaiting⟩ := hu.step (move_of_step hstep)
      fun x hx => hframes x (List.mem_append_right _ (hx ▸ List.mem_singleton_self _))
    refine ⟨hv, ?_⟩
    have harrived : arrived (as ++ [a]) = arrived as ++ a.arrived?.toList := by
      cases h : a.arrived? <;> simp [arrived, h]
    rw [harrived, heq, List.append_assoc, hwaiting, routedFrames, routedFrames,
      Run.along_snoc _ hrun hstep, List.append_assoc]

theorem exists_arrival (hrun : run? (opened options) as = some s) (hframe : frame ∈ arrived as) :
    ∃ m, Occurs options as m ∧ m.action.arrived? = some frame := by
  rw [run?_eq_follow] at hrun
  obtain ⟨a, ha, hframe⟩ := List.mem_filterMap.mp hframe
  obtain ⟨m, hm, rfl⟩ := Run.exists_moment_of_mem hrun ha
  exact ⟨m, hm, hframe⟩

/-! ### Moments of the exchange -/

theorem Move.route_mem (hmove : Move s a t) (h : .route frame ∈ coreActions s a) :
    a = .receive ∧ coreActions s a = [.route frame] ∧ routedFrame s a = [frame] := by
  have hrouted : frame ∈ Exchange.routed (coreActions s a) :=
    List.mem_filterMap.mpr ⟨_, h, rfl⟩
  rw [hmove.routed] at hrouted
  cases hmove with
  | receive hreceiving hinbound hread hroute =>
      rename_i text ms rest core
      have heq : routedFrame s .receive = [.object ms] := by
        simp [routedFrame, hreceiving, hinbound, hread]
      rw [heq, List.mem_singleton] at hrouted
      rw [coreActions, heq, hrouted]
      exact ⟨rfl, rfl, rfl⟩
  | receiveMalformed n hreceiving hinbound hread => simp_all [routedFrame]
  | receiveEnd n hreceiving hinbound hx =>
      rename_i x rest
      cases x with
      | frame text => exact absurd rfl (hx text)
      | failure cause => simp [routedFrame, hreceiving, hinbound] at hrouted
      | hangUp => simp [routedFrame, hreceiving, hinbound] at hrouted
  | _ => simp [routedFrame] at hrouted

/-- A moment of the exchange's run, or an action of it at least, belongs to a step of the
    session. -/
theorem exists_moment_of_coreRun (hrun : run? (opened options) as = some s) {k : Nat}
    {b : Exchange.Action} (hb : (coreRun options as)[openingActions.length + k]? = some b) :
    ∃ m, Occurs options as m ∧ ∃ j, (coreActions m.state m.action)[j]? = some b ∧
      openingActions.length + k = (coreRun options m.before).length + j := by
  rw [run?_eq_follow] at hrun
  rw [coreRun, List.getElem?_append_right (Nat.le_add_right _ _), Nat.add_sub_cancel_left] at hb
  obtain ⟨m, hm, j, hj, hk⟩ := Run.exists_moment_of_along coreActions hrun hb
  refine ⟨m, hm, j, hj, ?_⟩
  rw [coreRun, List.length_append, hk, Nat.add_assoc]

theorem exists_index_of_coreRun {k : Nat} {b : Exchange.Action}
    (hb : (coreRun options as)[k]? = some b) (hopening : b ∉ openingActions) :
    ∃ i, k = openingActions.length + i := by
  refine ⟨k - openingActions.length, ?_⟩
  by_contra hne
  apply hopening
  rw [coreRun, List.getElem?_append_left (by omega)] at hb
  exact List.mem_of_getElem? hb

/-- The moment at which a frame arrives at the exchange is one at which the receiver hands it
    over. -/
theorem exists_receive_of_route {q : Exchange.Moment}
    (hrun : run? (opened options) as = some s) (hq : Exchange.Occurs (coreRun options as) q)
    (hroute : q.action = .route frame) :
    ∃ m, Occurs options as m ∧ m.action = .receive ∧ routedFrame m.state m.action = [frame] ∧
      q.state.muted = m.state.core.muted := by
  obtain ⟨later, hlater⟩ := hq.1
  have hb : (coreRun options as)[q.before.length]? = some (.route frame) := by
    rw [← hlater, List.append_assoc, List.getElem?_append_right (Nat.le_refl _), Nat.sub_self,
      ← hroute]
    rfl
  obtain ⟨i, hi⟩ := exists_index_of_coreRun hb (by simp [openingActions])
  rw [hi] at hb
  obtain ⟨m, hm, j, hj, hlength⟩ := exists_moment_of_coreRun hrun hb
  obtain ⟨haction, hactions, hframe⟩ := hm.move.route_mem (List.mem_of_getElem? hj)
  refine ⟨m, hm, haction, hframe, ?_⟩
  -- what leads up to both moments is as long, so it is the same
  rw [hactions] at hj
  have hj0 : j = 0 := by
    have := (List.getElem?_eq_some_iff.mp hj).1
    simpa using this
  have hbefore : q.before = coreRun options m.before := by
    have hinit : coreRun options m.before <+: coreRun options as := by
      apply (List.prefix_append_right_inj _).mpr
      exact (List.prefix_append _ _).trans (Run.Moment.In.along_snoc_prefix coreActions hm)
    have hshort : q.before <+: coreRun options m.before :=
      List.prefix_of_prefix_length_le ((List.prefix_append _ _).trans hq.1) hinit (by omega)
    exact hshort.eq_of_length (by omega)
  obtain ⟨u, hu, hmuted⟩ := core_of_run hm.run
  rw [← hbefore, hq.run] at hu
  obtain rfl := Option.some.inj hu
  exact hmuted

theorem Move.core_step {b : Exchange.Action} (hmove : Move s (.core b) t) :
    Exchange.step? s.core b = some t.core := by
  cases hmove with
  | core hinner hstep => exact hstep

theorem expire_of_coreRun (hrun : run? (opened options) as = some s)
    (hexpire : Exchange.Action.expire ∈ coreRun options as) :
    ∃ m, Occurs options as m ∧ m.state.core.hasOverdue = true := by
  obtain ⟨k, hk⟩ := List.mem_iff_getElem?.mp hexpire
  obtain ⟨i, rfl⟩ := exists_index_of_coreRun hk (by simp [openingActions])
  obtain ⟨m, hm, j, hj, -⟩ := exists_moment_of_coreRun hrun hk
  refine ⟨m, hm, ?_⟩
  have hmem := List.mem_of_getElem? hj
  have hstep := hm.2.2
  cases haction : m.action with
  | core b =>
      rw [haction] at hmem hstep
      obtain rfl := List.mem_singleton.mp hmem
      have hcore := (move_of_step hstep).core_step
      simp only [Exchange.step?] at hcore
      split at hcore
      · rename_i hguard
        exact hguard.2
      · cases hcore
  | handle n closeFault =>
      rw [haction, coreActions] at hmem
      split at hmem <;> simp at hmem
  | _ => simp [haction, coreActions, fetchAction] at hmem

/-! ### Frames that a target sends -/

/-- A console call with a value whose properties have to be fetched. -/
def callFrame (objectId : String) : Value :=
  .object
    [("method", .string "Runtime.consoleAPICalled"),
      ("params", .object
        [("type", .string "log"),
          ("args", .array
            [.object [("type", .string "object"), ("objectId", .string objectId)]])])]

/-- A log entry. -/
def entryFrame (text : String) : Value :=
  .object
    [("method", .string "Log.entryAdded"),
      ("params", .object
        [("entry", .object [("level", .string "info"), ("text", .string text)])])]

/-- The reply of the target to a command that asked for properties. -/
def replyFrame (id : Nat) (properties : List Value) : Value :=
  .object [("id", .integer id), ("result", .object [("result", .array properties)])]

/-- A property with a number as its value. -/
def propertyNamed (name : String) (n : Int) : Value :=
  .object
    [("name", .string name), ("configurable", .bool true), ("enumerable", .bool true),
      ("value", .object [("type", .string "number"), ("value", .integer n)])]

/-- A property with an object as its value. -/
def objectNamed (name objectId : String) : Value :=
  .object
    [("name", .string name), ("configurable", .bool true), ("enumerable", .bool true),
      ("value", .object [("type", .string "object"), ("objectId", .string objectId)])]

end ConsoleTap.Session
