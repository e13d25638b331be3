import ConsoleTap.Proofs.Exchange.WriteOrder
import ConsoleTap.Proofs.Session.Arrivals
import ConsoleTap.Proofs.Session.Requests
import Mathlib

/-!
# The ids of a session

A session numbers its commands through its exchange, so their ids are fresh.  The first
three commands switch the target's events on; all others ask for properties.  The
dispatcher begins and serves all calls of a session and never waits between letting a
caller in and handing its command to the channel, so no other caller acts meanwhile, and
the commands are written in the order of their ids.
-/

namespace ConsoleTap.Session

open ConsoleTap.Json

variable {options : Options} {s t : State} {a : Action} {as bs : List Action}

/-! ### Commands in order -/

/-- While a caller is under way, no other caller acts. -/
def CallersTakeTurns (options : Options) (as : List Action) : Prop :=
  ∀ m n k refusal, Occurs options as m → m.state.core.UnderWay n →
    m.action = .core (.caller k refusal) → k = n

theorem CallersTakeTurns.mono (h : CallersTakeTurns options as) (hbs : bs <+: as) :
    CallersTakeTurns options bs :=
  fun m n k refusal hm hway haction =>
    h m n k refusal (Run.Moment.In.mono hm hbs) hway haction

/-- Whether each other caller is under way while one acts. -/
def turnsKept (s : State) : Action → List Bool
  | .core (.caller k _) =>
      s.core.calls.zipIdx.map fun (c, n) => decide (k = n) || !c.phase.isUnderWay
  | _ => []

theorem callersTakeTurns_of_turnsKept
    (h : ∀ kept ∈ Run.along step? turnsKept (opened options) as, kept = true) :
    CallersTakeTurns options as := by
  rintro m n k refusal hm ⟨c, hcall, hway⟩ haction
  have hkept : (decide (k = n) || !c.phase.isUnderWay) ∈ turnsKept m.state m.action := by
    rw [haction]
    exact List.mem_map_of_mem (List.mk_mem_zipIdx_iff_getElem?.mpr hcall)
  have htrue := h _ ((Run.Moment.In.along_snoc_prefix turnsKept hm).subset
    (List.mem_append_right _ hkept))
  simpa [hway] using htrue

theorem writeOrder_opened : Exchange.WriteOrder (opened options).core := by
  have hover : ∀ {n : Nat} {c : Exchange.Call}, (opened options).core.calls[n]? = some c →
      c.phase.isUnderWay = false := by
    intro n c hcall
    have hmem := List.mem_of_getElem? hcall
    simp only [opened, openedCore, Exchange.State.note, List.mem_cons, List.not_mem_nil,
      or_false] at hmem
    rcases hmem with rfl | rfl | rfl <;> rfl
  have hsorted : (openedCore.writes.map fun w => w.command.id).Pairwise (· < ·) := by decide
  have hbelow : ∀ w ∈ openedCore.writes, w.command.id < openedCore.nextId := by decide
  refine ⟨hsorted, hbelow, ?_, ?_⟩
  · intro n c id hcall hway
    rw [hover hcall] at hway
    cases hway
  · rintro n k ⟨c, hcall, hway⟩ -
    rw [hover hcall] at hway
    cases hway

theorem Move.writeOrder (hmove : Move s a t) (h : Exchange.WriteOrder s.core)
    (hturn : ∀ n k refusal, s.core.UnderWay n → a = .core (.caller k refusal) → k = n) :
    Exchange.WriteOrder t.core := by
  by_cases hcore : ∃ b : Exchange.Action, a = .core b
  · obtain ⟨b, rfl⟩ := hcore
    cases hmove with
    | core hinner hstep =>
        refine h.step (Exchange.move_of_step hstep) ?_
        rintro n k refusal hway rfl
        exact hturn n k refusal hway rfl
  · -- the other actions of a session let no caller act
    refine hmove.core_keeps ?_ (fun u log h => ⟨h.sorted, h.below, h.newer, h.alone⟩) h
    intro b hb u v huv hu
    refine hu.step huv ?_
    rintro n k refusal - rfl
    exact absurd ⟨_, eq_core_of_mem hb rfl⟩ hcore

theorem writeOrder_of_run (hrun : run? (opened options) as = some s)
    (hturns : CallersTakeTurns options as) : Exchange.WriteOrder s.core := by
  rw [run?_eq_follow] at hrun
  refine Run.follow_induction
    (motive := fun as s => CallersTakeTurns options as → Exchange.WriteOrder s.core)
    (fun _ => writeOrder_opened) ?_ hrun hturns
  intro as u a v hrun hstep ih hturns
  refine (move_of_step hstep).writeOrder (ih (hturns.mono (List.prefix_append as [a]))) ?_
  intro n k refusal hway haction
  exact hturns _ n k refusal (Run.Moment.in_last hrun hstep) hway haction

/-! ### What is asked -/

/-- The commands that switch the target's events on, with their ids. -/
def openingCommands : List Target.Command :=
  [⟨1, "Runtime.enable", none⟩, ⟨2, "Console.enable", none⟩, ⟨3, "Log.enable", none⟩]

/-- After the opening commands, everything that is written asks for properties. -/
theorem commands_of_run (hrun : run? (opened options) as = some s) :
    ∃ later, s.core.writes.map Exchange.Write.command = openingCommands ++ later ∧
      ∀ c ∈ later, c.method = Target.getProperties := by
  obtain ⟨log, hcore⟩ := exists_log_of_run hrun
  have hledger := Exchange.ledger_of_run hcore
  have hopening : Exchange.ledger openingActions =
      [(0, ⟨⟨1, "Runtime.enable", none⟩, none⟩), (1, ⟨⟨2, "Console.enable", none⟩, none⟩),
        (2, ⟨⟨3, "Log.enable", none⟩, none⟩)] := rfl
  have hopened : Run.follow Exchange.step? {} openingActions = some openedCore :=
    (Exchange.run?_eq_follow _ _).symm.trans run_openingActions
  generalize hlater : Run.along Exchange.step? Exchange.written openedCore
    (Run.along step? coreActions (opened options) as) = later
  have hsplit : Exchange.ledger (coreRun options as) = Exchange.ledger openingActions ++ later := by
    rw [← hlater, coreRun, Exchange.ledger, Run.along_append _ _ _ _ hopened]
    rfl
  rw [hopening] at hsplit
  refine ⟨later.map fun e => e.2.command, ?_, ?_⟩
  · rw [writes_eq_ledger hcore, hsplit]
    simp [openingCommands, Function.comp_def]
  · intro c hc
    obtain ⟨⟨n, w⟩, hmem, rfl⟩ := List.mem_map.mp hc
    have hentry : (n, w) ∈ Exchange.ledger (coreRun options as) :=
      hsplit ▸ List.mem_append_right _ hmem
    obtain ⟨d, hcall, -, hmethod, -⟩ := hledger.call hentry
    -- nobody writes twice, so it is none of the callers that opened the session
    have hlow : 3 ≤ n := by
      have hnodup := hledger.nodup
      rw [hsplit, List.map_append, List.nodup_append] at hnodup
      have hne := fun k hk => hnodup.2.2 k hk n (List.mem_map_of_mem (f := Prod.fst) hmem)
      have h0 := hne 0 (by simp)
      have h1 := hne 1 (by simp)
      have h2 := hne 2 (by simp)
      omega
    obtain ⟨objectId, d', limit, hcall', hmethod', -⟩ :=
      isFetch_of_le hrun hlow (List.getElem?_eq_some_iff.mp hcall).1
    obtain rfl := Option.some.inj (Eq.trans hcall.symm hcall')
    exact hmethod.trans hmethod'

/-! ### The whole -/

/-- Ids are fresh.  In every run of the exchange, with whatever notifications, requests, failed
    writes, timeouts, late replies and shutdowns, they are handed out in order, none is written
    twice, no registration replaces another one, and an id that went out of use resolves nothing
    any more.  So it is in a session, whose commands are the three that open it and then those
    that ask for properties, in the order of their ids. -/
theorem ids_fresh :
    (∀ as s, Exchange.run? {} as = some s → (Exchange.drawn as).length < 2 ^ 64 - 1 →
      Exchange.FreshIds as s) ∧
    ∀ options sink s₀ as s, State.start options sink = .ok s₀ → run? s₀ as = some s →
      (Exchange.drawn (coreRun options as)).length < 2 ^ 64 - 1 → CallersTakeTurns options as →
        (∃ log, Exchange.FreshIds (coreRun options as) { s.core with log := log }) ∧
        (s.core.writes.map fun w => w.command.id).Pairwise (· < ·) ∧
        ∃ later, s.core.writes.map Exchange.Write.command = openingCommands ++ later ∧
          ∀ c ∈ later, c.method = Target.getProperties := by
  refine ⟨fun as s hrun hcount => Exchange.freshIds_of_run hrun hcount, ?_⟩
  intro options sink s₀ as s hstart hrun hcount hturns
  obtain rfl := start_eq_opened hstart
  obtain ⟨log, hcore⟩ := exists_log_of_run hrun
  exact ⟨⟨log, Exchange.freshIds_of_run hcore hcount⟩, (writeOrder_of_run hrun hturns).sorted,
    commands_of_run hrun⟩

/-- A notification is written, a request runs out of time and is answered too late, and the write of
    another one fails; then the exchange is shut. -/
def mixedRun : List Exchange.Action :=
  [.begin "tell" none none, .begin "slow" none (some 5), .begin "lost" none (some 5),
    .caller 0 none, .caller 1 none, .caller 0 none, .caller 1 none, .caller 1 none,
    .caller 0 none, .caller 1 none, .caller 2 none, .caller 2 none, .caller 2 none,
    .caller 2 (some .closed), .caller 2 none, .handle, .handle, .handle, .tick 5, .expire,
    .route (.object [("id", .integer 2), ("result", .null)]), .handle, .caller 1 none,
    .ask, .closer 0, .closer 0, .closer 0, .handle, .shut, .stop]

/-- The ids drawn and written, and what is pending before and after the request expires. -/
theorem mixedRun_eval :
    ((Exchange.run? {} mixedRun).map fun s =>
        (Exchange.drawn mixedRun, s.writes.map fun w => w.command.id),
      (Exchange.run? {} (mixedRun.take 19)).bind fun u =>
        (Exchange.step? u .expire).map fun v =>
          (u.pending.map Exchange.Pending.id, v.pending.map Exchange.Pending.id)) =
      (some ([1, 2, 3], [1, 2, 3]), some ([2], [])) := by
  cbv

/-- The target prints two objects, and each of them is fetched. -/
def twoObjectsRun : List Action :=
  [.arrive (.frame (callFrame "7").compact), .arrive (.frame (callFrame "8").compact), .receive,
    .core .handle, .take, .receive, .core .handle, .take,
    .core (.caller 3 none), .core (.caller 3 none), .core (.caller 3 none), .core .handle,
    .core (.caller 3 none), .core (.caller 4 none), .core (.caller 4 none), .core (.caller 4 none),
    .core (.caller 4 (some .closed))]

/-- Whether the callers take turns, and the ids drawn and written. -/
theorem twoObjectsRun_eval :
    ((Run.along step? turnsKept (opened {}) twoObjectsRun).all id,
      (run? (opened {}) twoObjectsRun).map fun s =>
        (Exchange.drawn (coreRun {} twoObjectsRun), s.core.writes.map fun w => w.command.id)) =
      (true, some ([1, 2, 3, 4, 5], [1, 2, 3, 4, 5])) := by
  cbv

theorem ids_fresh_mixed :
    (∃ s, Exchange.run? {} mixedRun = some s ∧ Exchange.drawn mixedRun = [1, 2, 3] ∧
      Exchange.FreshIds mixedRun s ∧ ¬ s.Awaits 2) ∧
    State.start {} {} = .ok (opened {}) ∧ CallersTakeTurns {} twoObjectsRun ∧
      ∃ s, run? (opened {}) twoObjectsRun = some s ∧
        (s.core.writes.map fun w => w.command.id) = [1, 2, 3, 4, 5] ∧
        (s.core.writes.map fun w => w.command.id).Pairwise (· < ·) ∧
        ∃ later, s.core.writes.map Exchange.Write.command = openingCommands ++ later ∧
          ∀ c ∈ later, c.method = Target.getProperties := by
  constructor
  · have heval := mixedRun_eval
    simp only [Prod.mk.injEq] at heval
    obtain ⟨hend, hexpiry⟩ := heval
    obtain ⟨s, hrun, hs⟩ := Option.map_eq_some_iff.mp hend
    obtain ⟨hdrawn, -⟩ := Prod.mk.inj hs
    have hfresh := ids_fresh.1 mixedRun s hrun (by rw [hdrawn]; decide)
    obtain ⟨u, hu, hstep⟩ := Option.bind_eq_some_iff.mp hexpiry
    obtain ⟨v, hv, hids⟩ := Option.map_eq_some_iff.mp hstep
    obtain ⟨hbefore, hafter⟩ := Prod.mk.inj hids
    have hm : Exchange.Occurs mixedRun ⟨mixedRun.take 19, u, .expire, v⟩ :=
      ⟨⟨mixedRun.drop 20, rfl⟩, (Exchange.run?_eq_follow _ _).symm.trans hu, hv⟩
    have hretires : Exchange.Retires 2 ⟨mixedRun.take 19, u, .expire, v⟩ := by
      refine Or.inl ⟨?_, ?_⟩
      · exact List.mem_map.mp (by rw [hbefore]; exact List.mem_cons_self)
      · intro hawaits
        have hmem := List.mem_map.mpr hawaits
        rw [hafter] at hmem
        cases hmem
    exact ⟨s, hrun, hdrawn, hfresh, (hfresh.retired _ 2 hm hretires).1⟩
  · have heval := twoObjectsRun_eval
    simp only [Prod.mk.injEq] at heval
    obtain ⟨hkept, hend⟩ := heval
    have hturns : CallersTakeTurns {} twoObjectsRun :=
      callersTakeTurns_of_turnsKept fun kept hmem => List.all_eq_true.mp hkept kept hmem
    obtain ⟨s, hrun, hs⟩ := Option.map_eq_some_iff.mp hend
    obtain ⟨hdrawn, hids⟩ := Prod.mk.inj hs
    obtain ⟨-, hsorted, hlater⟩ :=
      ids_fresh.2 {} {} _ twoObjectsRun s start_default hrun (by rw [hdrawn]; decide) hturns
    exact ⟨start_default, hturns, s, hrun, hids, hsorted, hlater⟩

end ConsoleTap.Session
