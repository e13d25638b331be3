import ConsoleTap.Proofs.Session.Output

/-!
# The requests of a session

But for the three calls that opened it, every call of a session fetches the properties of
an object for some frame.  So the commands that ask for properties are those of the
dispatcher's calls, each written once at most.
-/

namespace ConsoleTap.Session

open ConsoleTap.Json

variable {options : Options} {s t : State} {a : Action} {as : List Action} {i n id : Nat}
  {objectId : String} {c : Exchange.Call} {w : Exchange.Write} {groups : List (List String)}

/-! ### Calls -/

/-- The calls that opened the session are over and fetch nothing. -/
theorem opening_call (hrun : run? (opened options) as = some s) (hn : n < 3)
    (hcall : s.core.calls[n]? = some c) :
    c.method ≠ Target.getProperties ∧ c.limit = none ∧ ∃ v, c.phase = .done (.ok v) := by
  have hlasts := lasts_of_run hrun
  have hopened : ∃ d v, (opened options).core.calls[n]? = some d ∧
      d.method ≠ Target.getProperties ∧ d.limit = none ∧ d.phase = .done (.ok v) := by
    match n, hn with
    | 0, _ => exact ⟨_, _, rfl, by decide, rfl, rfl⟩
    | 1, _ => exact ⟨_, _, rfl, by decide, rfl, rfl⟩
    | 2, _ => exact ⟨_, _, rfl, by decide, rfl, rfl⟩
  obtain ⟨d, v, hd, hmethod, hlimit, hdone⟩ := hopened
  obtain ⟨c', hc', hmethod', -, hlimit'⟩ := hlasts.call hd
  obtain rfl := Option.some.inj (hcall.symm.trans hc')
  refine ⟨hmethod' ▸ hmethod, hlimit'.trans hlimit, v, ?_⟩
  obtain ⟨c', hc', hdone'⟩ :=
    Exchange.done_of_outcome? (hlasts.outcome n _ (Exchange.outcome?_of_done hd hdone))
  obtain rfl := Option.some.inj (hcall.symm.trans hc')
  exact hdone'

theorem Move.begins (hmove : Move s a t) (hlt : s.core.calls.length < t.core.calls.length) :
    a = .take ∨
      ∃ parent fetch, a = .grow parent ∧ s.jobs.findSome? (Job.fetch? parent) = some fetch := by
  cases hmove with
  | take hexpecting hqueue hjob => exact Or.inl rfl
  | grow houtcome hfetch hgrowth => exact Or.inr ⟨_, _, rfl, hfetch⟩
  | core hinner hcore =>
      have hlength := ((Exchange.move_of_step hcore).inner hinner).1
      simp only [hlength] at hlt
      exact absurd hlt (Nat.lt_irrefl _)
  | receive hreceiving hinbound hread hroute =>
      cases Exchange.move_of_step hroute <;> exact absurd hlt (Nat.lt_irrefl _)
  | observe hrunner hend hask =>
      obtain rfl := Option.some.inj hask
      exact absurd hlt (Nat.lt_irrefl _)
  | shut hhandle hask =>
      obtain rfl := Option.some.inj hask
      exact absurd hlt (Nat.lt_irrefl _)
  | closeChannel hhandle hdone => simp [extended] at hlt
  | emit hemitting => simp [extended] at hlt
  | _ => exact absurd hlt (Nat.lt_irrefl _)

theorem Dispatched.begunFor {fetch : Fetch} (h : Dispatched options as s groups)
    (hfetch : s.jobs.findSome? (Job.fetch? n) = some fetch) : ∃ i, BegunFor options as i n := by
  obtain ⟨job, hmem, hplace⟩ := List.exists_of_findSome?_eq_some hfetch
  obtain ⟨j, hj⟩ := List.mem_iff_getElem?.mp hmem
  exact ⟨_, (h.job hj).begunFor hplace⟩

/-- Every call but those that opened the session was begun for some frame. -/
theorem exists_begunFor (hrun : run? (opened options) as = some s) (hlow : 3 ≤ n)
    (hn : n < s.core.calls.length) : ∃ i, BegunFor options as i n := by
  rw [run?_eq_follow] at hrun
  refine Run.follow_induction
    (motive := fun as s => n < s.core.calls.length → ∃ i, BegunFor options as i n) ?_ ?_ hrun hn
  · exact fun hn => absurd (hlow.trans_lt hn) (Nat.lt_irrefl 3)
  · intro as u a v hrun hstep ih hn
    by_cases hu : n < u.core.calls.length
    · obtain ⟨i, hbegun⟩ := ih hu
      exact ⟨i, hbegun.snoc a⟩
    · rw [Nat.not_lt] at hu
      have hlast : Occurs options (as ++ [a]) ⟨as, u, a, v⟩ := Run.Moment.in_last hrun hstep
      have hnew : Begins n ⟨as, u, a, v⟩ := ⟨hu, hn⟩
      rw [← run?_eq_follow] at hrun
      obtain ⟨groups, h⟩ := dispatched_of_run hrun
      rcases (move_of_step hstep).begins (hu.trans_lt hn) with rfl | ⟨parent, fetch, rfl, hfetch⟩
      · exact ⟨u.taken, .taken hlast rfl rfl hnew⟩
      · obtain ⟨i, hparent⟩ := h.begunFor hfetch
        exact ⟨i, .grown hlast rfl (hparent.snoc _) hnew⟩

theorem BegunFor.le (h : BegunFor options as i n) : 3 ≤ n := by
  have hle : ∀ {m : Moment}, Occurs options as m → Begins n m → 3 ≤ n := by
    intro m hm hn
    exact (lasts_of_run hm.run).length_calls.trans hn.1
  cases h with
  | taken hm haction hi hn => exact hle hm hn
  | grown hm haction hparent hn => exact hle hm hn

theorem BegunFor.isFetch (h : BegunFor options as i n)
    (hrun : run? (opened options) as = some s) : ∃ objectId, s.IsFetch n objectId := by
  obtain ⟨groups, hdispatched⟩ := dispatched_of_run hrun
  have howned : ∃ fetches, Owned options as s i fetches := by
    have hlt := h.lt_taken hrun
    have htaken := hdispatched.taken_eq
    by_cases hi : i < groups.length
    · obtain ⟨_, fetches, -, howned, -⟩ := hdispatched.group (List.getElem?_eq_getElem hi)
      exact ⟨fetches, howned⟩
    · have hj : i - groups.length < s.jobs.length := by omega
      obtain ⟨_, fetches, -, howned, -⟩ := hdispatched.job (List.getElem?_eq_getElem hj)
      rw [Nat.add_sub_cancel' (Nat.not_lt.mp hi)] at howned
      exact ⟨fetches, howned⟩
  obtain ⟨fetches, howned⟩ := howned
  obtain ⟨x, hx, rfl⟩ := List.mem_map.mp ((howned.begun n).mpr h)
  exact ⟨x.2, howned.fetch x hx⟩

theorem isFetch_of_le (hrun : run? (opened options) as = some s) (hlow : 3 ≤ n)
    (hn : n < s.core.calls.length) : ∃ objectId, s.IsFetch n objectId := by
  obtain ⟨i, hbegun⟩ := exists_begunFor hrun hlow hn
  exact hbegun.isFetch hrun

/-! ### Commands -/

/-- The object whose properties are asked for by that method with those parameters, if any. -/
def objectOf? (method : String) (params : Option Value) : Option String :=
  match params.bind fun v => v.get? "objectId" with
  | some (.string objectId) => if method = Target.getProperties then some objectId else none
  | _ => none

/-- The ids of the commands that asked for properties and were accepted, with the objects that
    they asked for, in order. -/
def State.asked (s : State) : List (Nat × String) :=
  s.core.sent.filterMap fun c => (objectOf? c.method c.params).map fun objectId => (c.id, objectId)

/-- The object whose properties the call of that number fetches, if it does. -/
def State.object? (s : State) (n : Nat) : Option String :=
  (s.core.calls[n]?).bind fun c => objectOf? c.method c.params

theorem objectOf?_eq_some {method : String} {params : Option Value}
    (h : objectOf? method params = some objectId) : method = Target.getProperties := by
  unfold objectOf? at h
  split at h
  · split at h
    · assumption
    · cases h
  · cases h

@[simp] theorem objectOf?_propertiesParams (objectId : String) :
    objectOf? Target.getProperties (some (Target.propertiesParams objectId)) = some objectId := by
  simp [objectOf?, Target.propertiesParams, Value.get?, Members.get?]

theorem State.IsFetch.object? (h : s.IsFetch n objectId) : s.object? n = some objectId := by
  obtain ⟨c, limit, hcall, hmethod, hparams, -⟩ := h
  simp [State.object?, hcall, hmethod, hparams]

theorem object?_of_opening (hrun : run? (opened options) as = some s) (hn : n < 3) :
    s.object? n = none := by
  rw [State.object?, Option.bind_eq_none_iff]
  intro c hcall
  by_contra hsome
  obtain ⟨objectId, hobject⟩ := Option.ne_none_iff_exists'.mp hsome
  exact (opening_call hrun hn hcall).1 (objectOf?_eq_some hobject)

theorem isFetch_of_object? (hrun : run? (opened options) as = some s)
    (h : s.object? n = some objectId) : s.IsFetch n objectId := by
  have hlow : 3 ≤ n := by
    by_contra hlt
    rw [object?_of_opening hrun (Nat.not_le.mp hlt)] at h
    cases h
  obtain ⟨c, hcall, -⟩ := Option.bind_eq_some_iff.mp h
  obtain ⟨objectId', hfetch⟩ := isFetch_of_le hrun hlow (List.getElem?_eq_some_iff.mp hcall).1
  rw [hfetch.object?] at h
  exact Option.some.inj h ▸ hfetch

theorem mem_asked : (id, objectId) ∈ s.asked ↔
    ∃ w ∈ s.core.writes, w.refusal = none ∧ w.command.id = id ∧
      objectOf? w.command.method w.command.params = some objectId := by
  constructor
  · intro h
    obtain ⟨c, hc, hpair⟩ := List.mem_filterMap.mp h
    obtain ⟨w, hw, rfl⟩ := List.mem_map.mp hc
    obtain ⟨hw, hrefusal⟩ := List.mem_filter.mp hw
    obtain ⟨objectId', hobject, heq⟩ := Option.map_eq_some_iff.mp hpair
    obtain ⟨hid, rfl⟩ := Prod.mk.inj heq
    exact ⟨w, hw, Option.isNone_iff_eq_none.mp hrefusal, hid, hobject⟩
  · rintro ⟨w, hw, hrefusal, rfl, hobject⟩
    refine List.mem_filterMap.mpr ⟨w.command, ?_, by simp [hobject]⟩
    exact List.mem_map_of_mem (List.mem_filter.mpr ⟨hw, by simp [hrefusal]⟩)

theorem asked_subset (hlasts : Exchange.Lasts s.core t.core) : s.asked ⊆ t.asked := by
  rintro ⟨id, objectId⟩ h
  obtain ⟨w, hw, hcommand⟩ := mem_asked.mp h
  exact mem_asked.mpr ⟨w, hlasts.writes.subset hw, hcommand⟩

section Ledger

variable {log : List Notice}
  (hcore : Exchange.run? {} (coreRun options as) = some { s.core with log := log })
include hcore

theorem writes_eq_ledger :
    s.core.writes = (Exchange.ledger (coreRun options as)).map Prod.snd :=
  (Exchange.ledger_of_run hcore).writes

theorem object?_of_ledger (hw : (n, w) ∈ Exchange.ledger (coreRun options as)) :
    objectOf? w.command.method w.command.params = s.object? n := by
  obtain ⟨c, hcall, -, hmethod, hparams⟩ := (Exchange.ledger_of_run hcore).call hw
  have hcall' : s.core.calls[n]? = some c := hcall
  rw [hmethod, hparams, State.object?, hcall', Option.bind_some]

/-- If no write was refused, what was asked for is what the callers of the commands fetch. -/
theorem map_asked (haccepted : ∀ w ∈ s.core.writes, w.refusal = none) :
    s.asked.map Prod.snd =
      ((Exchange.ledger (coreRun options as)).map Prod.fst).filterMap s.object? := by
  have hsent : s.core.sent = s.core.writes.map Exchange.Write.command := by
    rw [Exchange.State.sent, List.filter_eq_self.mpr fun w hw => by simp [haccepted w hw]]
  rw [State.asked, hsent, writes_eq_ledger hcore, List.map_filterMap, List.filterMap_map,
    List.filterMap_map, List.filterMap_map]
  apply List.filterMap_congr
  intro x hx
  simp [object?_of_ledger hcore hx, Function.comp_def]

theorem written_of_asked (hrun : run? (opened options) as = some s)
    (hasked : (id, objectId) ∈ s.asked) :
    ∃ n w, (n, w) ∈ Exchange.ledger (coreRun options as) ∧ w.command.id = id ∧
      s.IsFetch n objectId := by
  obtain ⟨w, hw, -, hid, hobject⟩ := mem_asked.mp hasked
  rw [writes_eq_ledger hcore] at hw
  obtain ⟨⟨n, w⟩, hmem, rfl⟩ := List.mem_map.mp hw
  rw [object?_of_ledger hcore hmem] at hobject
  exact ⟨n, w, hmem, hid, isFetch_of_object? hrun hobject⟩

end Ledger

end ConsoleTap.Session
