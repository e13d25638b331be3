import ConsoleTap.Proofs.Exchange.Writing
import ConsoleTap.Proofs.Exchange.Freshness

/-!
# Commands in the order of their ids

A caller that was let in has two things left to do before it waits for the first time:
to draw an id and to hand its command to the channel.  If no other caller acts in
between, one caller at most is under way, the id that it drew is the newest, and so
commands are written in the order of their ids.
-/

namespace ConsoleTap.Exchange

open ConsoleTap.Json ConsoleTap.Target

variable {s t : State} {a : Action} {n k id : Nat} {c c' : Call}

/-- The caller was let in, and its command was not handed to the channel yet. -/
def Phase.isUnderWay : Phase → Bool
  | .admitted | .numbered _ | .registered _ => true
  | .started | .refused .. | .waiting _ | .done _ => false

def State.UnderWay (s : State) (n : Nat) : Prop :=
  ∃ c, s.calls[n]? = some c ∧ c.phase.isUnderWay = true

theorem isUnderWay_of_writeId? (h : c.writeId? = some id) :
    c.phase.isUnderWay = true ∧ c.phase.id? = some id := by
  unfold Call.writeId? at h
  split at h <;> simp_all [Phase.isUnderWay, Phase.id?]

/-- A caller that is under way was so before, or it was just let in. -/
theorem Progress.underWay (h : Progress s n a c c') (hway : c'.phase.isUnderWay = true) :
    c.phase.isUnderWay = true ∨ (s.closed = false ∧ ∃ refusal, a = .caller n refusal) := by
  cases h with
  | letIn hphase hclosed => exact Or.inr ⟨hclosed, _, rfl⟩
  | draw hphase => exact Or.inl (by rw [hphase]; rfl)
  | register hphase => exact Or.inl (by rw [hphase]; rfl)
  | stay => exact Or.inl hway
  | answered => exact Or.inl hway
  | expired => exact Or.inl hway
  | cancelledQueued => exact Or.inl hway
  | cancelled => exact Or.inl hway
  | _ => cases hway

theorem State.UnderWay.before (h : t.UnderWay n) (hmove : Move s a t) :
    s.UnderWay n ∨ (s.closed = false ∧ ∃ refusal, a = .caller n refusal) := by
  obtain ⟨c', hcall', hway⟩ := h
  rcases progress_of_move hmove hcall' with ⟨-, hstarted, -⟩ | ⟨c, hcall, hprogress⟩
  · rw [hstarted] at hway
    cases hway
  · exact (hprogress.underWay hway).imp_left fun h => ⟨c, hcall, h⟩

/-- The id of a caller that is under way was its own before, or it was just drawn. -/
theorem Progress.id_underWay (h : Progress s n a c c') (hway : c'.phase.isUnderWay = true)
    (hid : c'.phase.id? = some id) :
    (c.phase.isUnderWay = true ∧ c.phase.id? = some id) ∨
      (c.phase = .admitted ∧ id = s.nextId ∧ ∃ refusal, a = .caller n refusal) := by
  cases h with
  | letIn => cases hid
  | draw hphase => exact Or.inr ⟨hphase, (Option.some.inj hid).symm, _, rfl⟩
  | register hphase => exact Or.inl ⟨by rw [hphase]; rfl, by rw [hphase]; exact hid⟩
  | stay => exact Or.inl ⟨hway, hid⟩
  | answered => exact Or.inl ⟨hway, hid⟩
  | expired => exact Or.inl ⟨hway, hid⟩
  | cancelledQueued => exact Or.inl ⟨hway, hid⟩
  | cancelled => exact Or.inl ⟨hway, hid⟩
  | _ => cases hway

theorem not_underWay_of_rank (h : 4 ≤ c.phase.rank) : c.phase.isUnderWay = false := by
  cases hphase : c.phase <;> simp_all [Phase.rank, Phase.isUnderWay]

theorem written_cases (s : State) (a : Action) :
    written s a = [] ∨ ∃ n c id refusal, a = .caller n refusal ∧ s.calls[n]? = some c ∧
      c.writeId? = some id ∧ written s a = [(n, ⟨⟨id, c.method, c.params⟩, refusal⟩)] := by
  unfold written
  split
  · rename_i n refusal
    split
    · rename_i c hcall
      cases hid : c.writeId? with
      | none => exact Or.inl rfl
      | some id => exact Or.inr ⟨n, c, id, refusal, rfl, hcall, hid, rfl⟩
    · exact Or.inl rfl
  · exact Or.inl rfl

/-- What was written stands in the order of the ids, and whoever is under way is alone and has a
    newer one. -/
structure WriteOrder (s : State) : Prop where
  sorted : (s.writes.map fun w => w.command.id).Pairwise (· < ·)
  below : ∀ w ∈ s.writes, w.command.id < s.nextId
  newer : ∀ {n : Nat} {c : Call} {id : Nat}, s.calls[n]? = some c → c.phase.isUnderWay = true →
    c.phase.id? = some id → id < s.nextId ∧ ∀ w ∈ s.writes, w.command.id < id
  alone : ∀ n k, s.UnderWay n → s.UnderWay k → n = k

section Step

variable (h : WriteOrder s) (hmove : Move s a t)
include h hmove

theorem WriteOrder.sorted_step : (t.writes.map fun w => w.command.id).Pairwise (· < ·) := by
  rw [hmove.writes]
  rcases written_cases s a with hnone | ⟨n, c, id, refusal, -, hcall, hid, hwritten⟩
  · rw [hnone, List.map_nil, List.append_nil]
    exact h.sorted
  · obtain ⟨hway, hid⟩ := isUnderWay_of_writeId? hid
    rw [hwritten, List.map_append, List.pairwise_append]
    refine ⟨h.sorted, List.pairwise_singleton _ _, ?_⟩
    intro i hi j hj
    obtain ⟨w, hw, rfl⟩ := List.mem_map.mp hi
    rw [List.mem_singleton.mp hj]
    exact (h.newer hcall hway hid).2 w hw

omit h in
theorem Move.mem_writes {w : Write} (hw : w ∈ t.writes) :
    w ∈ s.writes ∨ ∃ n c refusal, a = .caller n refusal ∧ s.calls[n]? = some c ∧
      c.writeId? = some w.command.id := by
  rw [hmove.writes, List.mem_append] at hw
  rcases hw with hw | hw
  · exact Or.inl hw
  · obtain ⟨⟨n, w⟩, hmem, rfl⟩ := List.mem_map.mp hw
    obtain ⟨c, id, refusal, haction, hcall, hid, rfl⟩ := mem_written hmem
    exact Or.inr ⟨n, c, refusal, haction, hcall, hid⟩

theorem WriteOrder.below_step {w : Write} (hw : w ∈ t.writes) : w.command.id < t.nextId := by
  refine Nat.lt_of_lt_of_le ?_ (nextId_le_of_move hmove)
  rcases hmove.mem_writes hw with hold | ⟨n, c, refusal, -, hcall, hid⟩
  · exact h.below w hold
  · obtain ⟨hway, hid⟩ := isUnderWay_of_writeId? hid
    exact (h.newer hcall hway hid).1

theorem WriteOrder.newer_step {c' : Call} (hcall' : t.calls[n]? = some c')
    (hway' : c'.phase.isUnderWay = true) (hid' : c'.phase.id? = some id) :
    id < t.nextId ∧ ∀ w ∈ t.writes, w.command.id < id := by
  rcases progress_of_move hmove hcall' with ⟨-, hstarted, -⟩ | ⟨c, hcall, hprogress⟩
  · rw [hstarted] at hway'
    cases hway'
  rcases hprogress.id_underWay hway' hid' with ⟨hway, hid⟩ | ⟨hphase, rfl, refusal, rfl⟩
  · obtain ⟨hlt, hnewer⟩ := h.newer hcall hway hid
    refine ⟨hlt.trans_le (nextId_le_of_move hmove), fun w hw => ?_⟩
    rcases hmove.mem_writes hw with hold | ⟨k, d, refusal, rfl, hd, hwrite⟩
    · exact hnewer w hold
    · -- whoever writes is the one under way, and is so no more
      obtain rfl := h.alone k n ⟨d, hd, (isUnderWay_of_writeId? hwrite).1⟩ ⟨c, hcall, hway⟩
      obtain rfl := Option.some.inj (hcall.symm.trans hd)
      rw [not_underWay_of_rank (hprogress.rank_of_write hwrite)] at hway'
      cases hway'
  · constructor
    · rcases hmove.counts with ⟨hnone, -⟩ | ⟨-, hgrown⟩
      · simp [drawnId, hcall, hphase] at hnone
      · omega
    · intro w hw
      rcases hmove.mem_writes hw with hold | ⟨k, d, refusal', heq, hd, hwrite⟩
      · exact h.below w hold
      · obtain ⟨rfl, -⟩ := Action.caller.inj heq
        obtain rfl := Option.some.inj (hcall.symm.trans hd)
        simp [Call.writeId?, hphase] at hwrite

theorem WriteOrder.alone_step
    (hturn : ∀ n k refusal, s.UnderWay n → a = .caller k refusal → k = n)
    (hn : t.UnderWay n) (hk : t.UnderWay k) : n = k := by
  rcases hn.before hmove with hn | ⟨-, refusal, rfl⟩
  · rcases hk.before hmove with hk | ⟨-, refusal, rfl⟩
    · exact h.alone n k hn hk
    · exact (hturn n k refusal hn rfl).symm
  · rcases hk.before hmove with hk | ⟨-, refusal', heq⟩
    · exact hturn k n refusal hk rfl
    · exact (Action.caller.inj heq).1

/-- A step at which no other caller than the one under way acts keeps the order. -/
theorem WriteOrder.step (hturn : ∀ n k refusal, s.UnderWay n → a = .caller k refusal → k = n) :
    WriteOrder t where
  sorted := h.sorted_step hmove
  below _ hw := h.below_step hmove hw
  newer hcall hway hid := h.newer_step hmove hcall hway hid
  alone _ _ hn hk := h.alone_step hmove hturn hn hk

end Step

end ConsoleTap.Exchange
