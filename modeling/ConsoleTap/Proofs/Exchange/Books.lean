import ConsoleTap.Proofs.Exchange.Move
import Mathlib.Data.List.Nodup

/-!
# The books of the exchange

A request is known in two places: to its caller, whose phase holds its id, and to
the keeper, either in the table or still on its way there in the mailbox.  `Books`
is that part of a state, and `Coherent` says that both sides agree: ids are drawn
once and belong to one caller, and a caller is tracked exactly as long as it
holds a registration to which no word was given.

Every move makes at most one `Entry` in the books, and coherence is shown to
survive each kind of entry.
-/

namespace ConsoleTap.Exchange

open ConsoleTap.Json ConsoleTap.Target

/-! ### What the books show -/

/-- The id that a caller has drawn and still uses. -/
def Phase.id? : Phase → Option Nat
  | .numbered id | .registered id | .refused id _ | .waiting id => some id
  | .started | .admitted | .done _ => none

/-- The id under which a caller has been registered, until it is over. -/
def Phase.heldId? : Phase → Option Nat
  | .registered id | .refused id _ | .waiting id => some id
  | .started | .admitted | .numbered _ | .done _ => none

/-- Whether a caller has not been registered yet. -/
def Phase.isEarly : Phase → Bool
  | .started | .admitted | .numbered _ => true
  | .registered _ | .refused .. | .waiting _ | .done _ => false

theorem Phase.id?_of_heldId? {φ : Phase} {id : Nat} (h : φ.heldId? = some id) :
    φ.id? = some id := by
  cases φ <;> simp_all [Phase.heldId?, Phase.id?]

/-- The registration that a message brings. -/
def Message.request? : Message → Option Pending
  | .register p => some p
  | .forget _ | .frame _ | .shutdown => none

/-- The id whose registration a message takes back. -/
def Message.forgotten? : Message → Option Nat
  | .forget id => some id
  | .register _ | .frame _ | .shutdown => none

/-- The registrations among messages. -/
def requests (ms : List Message) : List Pending := ms.filterMap Message.request?

/-- The ids withdrawn among messages. -/
def withdrawals (ms : List Message) : List Nat := ms.filterMap Message.forgotten?

section Messages

variable (ms ms' : List Message)

@[simp] theorem requests_nil : requests [] = [] := rfl
@[simp] theorem requests_append : requests (ms ++ ms') = requests ms ++ requests ms' :=
  List.filterMap_append
@[simp] theorem requests_register (p : Pending) :
    requests (.register p :: ms) = p :: requests ms := rfl
@[simp] theorem requests_forget (id : Nat) : requests (.forget id :: ms) = requests ms := rfl
@[simp] theorem requests_frame (frame : Value) : requests (.frame frame :: ms) = requests ms := rfl
@[simp] theorem requests_shutdown : requests (.shutdown :: ms) = requests ms := rfl

@[simp] theorem withdrawals_nil : withdrawals [] = [] := rfl
@[simp] theorem withdrawals_append :
    withdrawals (ms ++ ms') = withdrawals ms ++ withdrawals ms' := List.filterMap_append
@[simp] theorem withdrawals_register (p : Pending) :
    withdrawals (.register p :: ms) = withdrawals ms := rfl
@[simp] theorem withdrawals_forget (id : Nat) :
    withdrawals (.forget id :: ms) = id :: withdrawals ms := rfl
@[simp] theorem withdrawals_frame (frame : Value) :
    withdrawals (.frame frame :: ms) = withdrawals ms := rfl
@[simp] theorem withdrawals_shutdown : withdrawals (.shutdown :: ms) = withdrawals ms := rfl

end Messages

theorem mem_requests {ms : List Message} {p : Pending} :
    p ∈ requests ms ↔ Message.register p ∈ ms := by
  induction ms with
  | nil => simp
  | cons m ms ih => cases m <;> simp [ih]

theorem mem_withdrawals {ms : List Message} {id : Nat} :
    id ∈ withdrawals ms ↔ Message.forget id ∈ ms := by
  induction ms with
  | nil => simp
  | cons m ms ih => cases m <;> simp [ih]

/-- The part of a state that the numbering and tracking of requests consists of. -/
structure Books where
  nextId : Nat
  calls : List Call
  /-- The requests in the table, then those whose registration is in the mailbox. -/
  tracked : List Pending
  /-- The ids whose withdrawal is in the mailbox. -/
  withdrawn : List Nat
  answered : List Nat

/-- The requests that the keeper tracks or will track. -/
def State.tracked (s : State) : List Pending :=
  s.pending ++ requests s.mailbox

def State.books (s : State) : Books where
  nextId := s.nextId
  calls := s.calls
  tracked := s.tracked
  withdrawn := withdrawals s.mailbox
  answered := s.answered

/-! ### Coherence -/

/-- A tracked request is the one under which its caller was registered, or one that
    its caller gave up on after a failed write. -/
def Call.Owns (c : Call) (p : Pending) : Prop :=
  c.phase.heldId? = some p.id ∨ ∃ cause, c.phase = .done (.error (.transport cause))

/-- Callers and keeper agree about ids and registrations. -/
structure Coherent (b : Books) : Prop where
  /-- Ids in use have been drawn. -/
  phase_lt : ∀ {n : Nat} {c : Call} {id : Nat}, b.calls[n]? = some c →
    c.phase.id? = some id → id < b.nextId
  tracked_lt : ∀ p ∈ b.tracked, p.id < b.nextId
  withdrawn_lt : ∀ id ∈ b.withdrawn, id < b.nextId
  /-- An id belongs to one caller. -/
  phase_inj : ∀ {n m : Nat} {c d : Call} {id : Nat}, b.calls[n]? = some c → b.calls[m]? = some d →
    c.phase.id? = some id → d.phase.id? = some id → n = m
  tracked_own : ∀ {n : Nat} {c : Call} {p : Pending}, p ∈ b.tracked → b.calls[n]? = some c →
    c.phase.id? = some p.id → n = p.call
  /-- No id and no caller is tracked twice. -/
  ids_nodup : (b.tracked.map Pending.id).Nodup
  calls_nodup : (b.tracked.map Pending.call).Nodup
  /-- Whoever is tracked has been registered and got no word. -/
  tracked_call : ∀ p ∈ b.tracked, ∃ c, b.calls[p.call]? = some c ∧ c.word = none ∧ c.Owns p
  /-- Whoever has been registered and got no word is tracked. -/
  held : ∀ {n : Nat} {c : Call} {id : Nat}, b.calls[n]? = some c →
    c.phase.heldId? = some id → c.word = none →
    ∃ p ∈ b.tracked, p.call = n ∧ p.id = id
  /-- Nobody gets word before being registered. -/
  early : ∀ {n : Nat} {c : Call}, b.calls[n]? = some c → c.phase.isEarly = true → c.word = none
  /-- A registration is withdrawn by a caller that is over and uses its id no more. -/
  withdrawn_free : ∀ {n : Nat} {c : Call} {id : Nat}, id ∈ b.withdrawn → b.calls[n]? = some c →
    c.phase.id? ≠ some id
  /-- The history of words agrees with the words given. -/
  answered_iff : ∀ {n : Nat}, n ∈ b.answered ↔ ∃ c, b.calls[n]? = some c ∧ c.word ≠ none
  answered_nodup : b.answered.Nodup

theorem coherent_start : Coherent (State.books {}) := by
  constructor <;> simp [State.books, State.tracked]

/-! ### Entries -/

/-- A caller goes on without drawing an id or being registered: it keeps its id or
    drops it, and a caller that is tracked lets go of its registration only after
    a failed write. -/
structure Advances (c : Call) (φ : Phase) : Prop where
  not_over : ∀ o, c.phase ≠ .done o
  id_kept : ∀ id, φ.id? = some id → c.phase.id? = some id
  held_kept : ∀ id, φ.heldId? = some id → c.phase.heldId? = some id
  released : ∀ id, c.phase.heldId? = some id → c.word = none →
    φ.heldId? = some id ∨ ∃ cause, φ = .done (.error (.transport cause))
  early_kept : φ.isEarly = true → c.phase.isEarly = true

/-- The calls after one of them has got to another phase. -/
def rephase (calls : List Call) (n : Nat) (φ : Phase) : List Call :=
  calls.modify n fun c => { c with phase := φ }

theorem getElem?_rephase_self {calls : List Call} {n : Nat} {φ : Phase} {c : Call}
    (h : calls[n]? = some c) : (rephase calls n φ)[n]? = some { c with phase := φ } := by
  rw [rephase, List.getElem?_modify_eq, h]
  rfl

theorem getElem?_rephase_ne {calls : List Call} {n m : Nat} {φ : Phase} (h : n ≠ m) :
    (rephase calls n φ)[m]? = calls[m]? :=
  List.getElem?_modify_ne _ _ h

theorem rephase_cases {calls : List Call} {n m : Nat} {φ : Phase} {c d : Call}
    (hcall : calls[n]? = some c) (h : (rephase calls n φ)[m]? = some d) :
    (m = n ∧ d = { c with phase := φ }) ∨ (n ≠ m ∧ calls[m]? = some d) := by
  by_cases hn : n = m
  · subst hn
    rw [getElem?_rephase_self hcall, Option.some.injEq] at h
    exact Or.inl ⟨rfl, h.symm⟩
  · rw [getElem?_rephase_ne hn] at h
    exact Or.inr ⟨hn, h⟩

theorem exists_word_rephase {calls : List Call} {n m : Nat} {φ : Phase} :
    (∃ d, (rephase calls n φ)[m]? = some d ∧ d.word ≠ none) ↔
      ∃ d, calls[m]? = some d ∧ d.word ≠ none := by
  by_cases hn : n = m
  · subst hn
    cases hcall : calls[n]? with
    | none => simp [rephase, hcall]
    | some c => simp [getElem?_rephase_self hcall]
  · rw [getElem?_rephase_ne hn]

/-- What a move can do to the books. -/
inductive Entry (b : Books) : Books → Prop where
  | none : Entry b b
  /-- A call is begun. -/
  | begin (c : Call) (hphase : c.phase = .started) (hword : c.word = .none) :
      Entry b { b with calls := b.calls ++ [c] }
  /-- A caller goes on. -/
  | advance {n : Nat} {c : Call} {φ : Phase} (hcall : b.calls[n]? = some c)
      (hadvances : Advances c φ) : Entry b { b with calls := rephase b.calls n φ }
  /-- A caller draws an id. -/
  | draw {n : Nat} {c : Call} (hcall : b.calls[n]? = some c) (hphase : c.phase = .admitted) :
      Entry b
        { b with nextId := b.nextId + 1, calls := rephase b.calls n (.numbered b.nextId) }
  /-- A caller has its reply tracked. -/
  | register {n : Nat} {c : Call} {p : Pending} (hcall : b.calls[n]? = some c)
      (hphase : c.phase = .numbered p.id) (hn : p.call = n) :
      Entry b
        { b with calls := rephase b.calls n (.registered p.id), tracked := b.tracked ++ [p] }
  /-- A caller whose write failed has its registration taken back. -/
  | withdraw {n id : Nat} {c : Call} {cause : TransportFault} (hcall : b.calls[n]? = some c)
      (hphase : c.phase = .refused id cause) :
      Entry b
        { b with
          calls := rephase b.calls n (.done (.error (.transport cause)))
          withdrawn := b.withdrawn ++ [id] }
  /-- The keeper forgets withdrawn registrations. -/
  | forget (tracked : List Pending) (withdrawn : List Nat)
      (htracked : List.Sublist tracked b.tracked)
      (hkept : ∀ p ∈ b.tracked, p ∈ tracked ∨ p.id ∈ b.withdrawn)
      (hwithdrawn : withdrawn ⊆ b.withdrawn) :
      Entry b { b with tracked := tracked, withdrawn := withdrawn }
  /-- The keeper gives its word to callers that were tracked and are no more. -/
  | tell (tracked : List Pending) (words : List (Nat × Outcome))
      (htracked : List.Sublist tracked b.tracked)
      (hnodup : (words.map Prod.fst).Nodup)
      (hwords : ∀ n ∈ words.map Prod.fst, ∃ p ∈ b.tracked, p.call = n)
      (hkept : ∀ p ∈ b.tracked, p ∈ tracked ↔ p.call ∉ words.map Prod.fst) :
      Entry b
        { b with
          calls := tell b.calls words
          tracked := tracked
          answered := b.answered ++ words.map Prod.fst }

variable {b b' : Books}

theorem Coherent.not_early (h : Coherent b) {p : Pending} (hp : p ∈ b.tracked) {c : Call}
    (hcall : b.calls[p.call]? = some c) : c.phase.isEarly = false := by
  obtain ⟨d, hd, -, howns⟩ := h.tracked_call p hp
  rw [hcall, Option.some.injEq] at hd
  subst hd
  rcases howns with hheld | ⟨cause, hdone⟩
  · cases hphase : c.phase <;> simp_all [Phase.heldId?, Phase.isEarly]
  · simp [hdone, Phase.isEarly]

theorem Coherent.begin (h : Coherent b) {c : Call} (hphase : c.phase = .started)
    (hword : c.word = none) : Coherent { b with calls := b.calls ++ [c] } := by
  -- a call of the longer list is one of the old ones or the new one, which uses no id
  have hcases : ∀ {n : Nat} {d : Call}, (b.calls ++ [c])[n]? = some d →
      b.calls[n]? = some d ∨ d = c := by
    intro n d hd
    rw [List.getElem?_append] at hd
    split at hd
    · exact Or.inl hd
    · right
      have := List.mem_of_getElem? hd
      simpa using this
  have hold : ∀ {n : Nat} {d : Call}, b.calls[n]? = some d → (b.calls ++ [c])[n]? = some d := by
    intro n d hd
    rw [List.getElem?_append_left (List.getElem?_eq_some_iff.mp hd).1, hd]
  have hid : c.phase.id? = none := by simp [hphase, Phase.id?]
  refine ⟨?_, h.tracked_lt, h.withdrawn_lt, ?_, ?_, h.ids_nodup, h.calls_nodup, ?_, ?_, ?_, ?_,
    ?_, h.answered_nodup⟩
  · intro n d id hd hdid
    rcases hcases hd with hd | rfl
    · exact h.phase_lt hd hdid
    · simp [hid] at hdid
  · intro n m d e id hd he hdid heid
    rcases hcases hd with hd | rfl
    · rcases hcases he with he | rfl
      · exact h.phase_inj hd he hdid heid
      · simp [hid] at heid
    · simp [hid] at hdid
  · intro n d p hp hd hdid
    rcases hcases hd with hd | rfl
    · exact h.tracked_own hp hd hdid
    · simp [hid] at hdid
  · intro p hp
    obtain ⟨d, hd, hrest⟩ := h.tracked_call p hp
    exact ⟨d, hold hd, hrest⟩
  · intro n d id hd hheld hdword
    rcases hcases hd with hd | rfl
    · exact h.held hd hheld hdword
    · simp [hphase, Phase.heldId?] at hheld
  · intro n d hd hearly
    rcases hcases hd with hd | rfl
    · exact h.early hd hearly
    · exact hword
  · intro n d id hw hd
    rcases hcases hd with hd | rfl
    · exact h.withdrawn_free hw hd
    · simp [hid]
  · intro n
    rw [h.answered_iff]
    constructor
    · rintro ⟨d, hd, hdword⟩
      exact ⟨d, hold hd, hdword⟩
    · rintro ⟨d, hd, hdword⟩
      rcases hcases hd with hd | rfl
      · exact ⟨d, hd, hdword⟩
      · exact absurd hword hdword

theorem Coherent.advance (h : Coherent b) {n : Nat} {c : Call} {φ : Phase}
    (hcall : b.calls[n]? = some c) (hadvances : Advances c φ) :
    Coherent { b with calls := rephase b.calls n φ } := by
  -- whoever uses an id now used it before
  have hid : ∀ {m : Nat} {d : Call} {id : Nat}, (rephase b.calls n φ)[m]? = some d →
      d.phase.id? = some id → ∃ e, b.calls[m]? = some e ∧ e.phase.id? = some id := by
    intro m d id hd hdid
    rcases rephase_cases hcall hd with ⟨rfl, rfl⟩ | ⟨-, hd⟩
    · exact ⟨c, hcall, hadvances.id_kept id hdid⟩
    · exact ⟨d, hd, hdid⟩
  refine ⟨?_, h.tracked_lt, h.withdrawn_lt, ?_, ?_, h.ids_nodup, h.calls_nodup, ?_, ?_, ?_, ?_,
    ?_, h.answered_nodup⟩
  · intro m d id hd hdid
    obtain ⟨e, he, heid⟩ := hid hd hdid
    exact h.phase_lt he heid
  · intro m k d e id hd he hdid heid
    obtain ⟨d', hd', hdid'⟩ := hid hd hdid
    obtain ⟨e', he', heid'⟩ := hid he heid
    exact h.phase_inj hd' he' hdid' heid'
  · intro m d p hp hd hdid
    obtain ⟨e, he, heid⟩ := hid hd hdid
    exact h.tracked_own hp he heid
  · intro p hp
    obtain ⟨d, hd, hdword, howns⟩ := h.tracked_call p hp
    by_cases hn : n = p.call
    · subst hn
      rw [hcall, Option.some.injEq] at hd
      subst hd
      refine ⟨_, getElem?_rephase_self hcall, hdword, ?_⟩
      rcases howns with hheld | ⟨cause, hdone⟩
      · exact hadvances.released p.id hheld hdword
      · exact absurd hdone (hadvances.not_over _)
    · exact ⟨d, (getElem?_rephase_ne hn).trans hd, hdword, howns⟩
  · intro m d id hd hheld hdword
    rcases rephase_cases hcall hd with ⟨rfl, rfl⟩ | ⟨-, hd⟩
    · exact h.held hcall (hadvances.held_kept id hheld) hdword
    · exact h.held hd hheld hdword
  · intro m d hd hearly
    rcases rephase_cases hcall hd with ⟨rfl, rfl⟩ | ⟨-, hd⟩
    · have hword := h.early hcall (hadvances.early_kept hearly)
      exact hword
    · exact h.early hd hearly
  · intro m d id hw hd hdid
    obtain ⟨e, he, heid⟩ := hid hd hdid
    exact h.withdrawn_free hw he heid
  · intro m
    rw [h.answered_iff, exists_word_rephase]

/-- A drawn id is new to everybody. -/
theorem Coherent.draw (h : Coherent b) {n : Nat} {c : Call} (hcall : b.calls[n]? = some c)
    (hphase : c.phase = .admitted) :
    Coherent
      { b with
        nextId := b.nextId + 1
        calls := rephase b.calls n (.numbered b.nextId) } := by
  have hearly : c.phase.isEarly = true := by simp [hphase, Phase.isEarly]
  have hword : c.word = none := h.early hcall hearly
  refine ⟨?_, ?_, ?_, ?_, ?_, h.ids_nodup, h.calls_nodup, ?_, ?_, ?_, ?_, ?_, h.answered_nodup⟩
  · intro m d id hd hdid
    rcases rephase_cases hcall hd with ⟨rfl, rfl⟩ | ⟨-, hd⟩
    · simp only [Phase.id?, Option.some.injEq] at hdid
      subst hdid
      exact Nat.lt_succ_self _
    · exact Nat.lt_succ_of_lt (h.phase_lt hd hdid)
  · intro p hp
    exact Nat.lt_succ_of_lt (h.tracked_lt p hp)
  · intro id hw
    exact Nat.lt_succ_of_lt (h.withdrawn_lt id hw)
  · intro m k d e id hd he hdid heid
    rcases rephase_cases hcall hd with ⟨hm, rfl⟩ | ⟨-, hd'⟩
    · rcases rephase_cases hcall he with ⟨hk, rfl⟩ | ⟨-, he'⟩
      · rw [hm, hk]
      · simp only [Phase.id?, Option.some.injEq] at hdid
        have := h.phase_lt he' heid
        omega
    · rcases rephase_cases hcall he with ⟨hk, rfl⟩ | ⟨-, he'⟩
      · simp only [Phase.id?, Option.some.injEq] at heid
        have := h.phase_lt hd' hdid
        omega
      · exact h.phase_inj hd' he' hdid heid
  · intro m d p hp hd hdid
    rcases rephase_cases hcall hd with ⟨rfl, rfl⟩ | ⟨-, hd⟩
    · simp only [Phase.id?, Option.some.injEq] at hdid
      have := h.tracked_lt p hp
      omega
    · exact h.tracked_own hp hd hdid
  · intro p hp
    obtain ⟨d, hd, hdword, howns⟩ := h.tracked_call p hp
    have hn : n ≠ p.call := by
      rintro rfl
      rw [h.not_early hp hcall] at hearly
      cases hearly
    exact ⟨d, (getElem?_rephase_ne hn).trans hd, hdword, howns⟩
  · intro m d id hd hheld hdword
    rcases rephase_cases hcall hd with ⟨rfl, rfl⟩ | ⟨-, hd⟩
    · simp [Phase.heldId?] at hheld
    · exact h.held hd hheld hdword
  · intro m d hd hdearly
    rcases rephase_cases hcall hd with ⟨rfl, rfl⟩ | ⟨-, hd⟩
    · exact hword
    · exact h.early hd hdearly
  · intro m d id hw hd hdid
    rcases rephase_cases hcall hd with ⟨rfl, rfl⟩ | ⟨-, hd⟩
    · simp only [Phase.id?, Option.some.injEq] at hdid
      have := h.withdrawn_lt id hw
      omega
    · exact h.withdrawn_free hw hd hdid
  · intro m
    rw [h.answered_iff, exists_word_rephase]

/-- A registration is the first one of its id and of its caller. -/
theorem Coherent.register (h : Coherent b) {n : Nat} {c : Call} {p : Pending}
    (hcall : b.calls[n]? = some c) (hphase : c.phase = .numbered p.id) (hn : p.call = n) :
    Coherent
      { b with calls := rephase b.calls n (.registered p.id), tracked := b.tracked ++ [p] } := by
  subst hn
  have hearly : c.phase.isEarly = true := by simp [hphase, Phase.isEarly]
  have hword : c.word = none := h.early hcall hearly
  have hcid : c.phase.id? = some p.id := by simp [hphase, Phase.id?]
  have hcalls : ∀ q ∈ b.tracked, q.call ≠ p.call := by
    intro q hq heq
    rw [h.not_early hq (heq ▸ hcall)] at hearly
    cases hearly
  have hids : ∀ q ∈ b.tracked, q.id ≠ p.id := by
    intro q hq heq
    exact hcalls q hq (h.tracked_own hq hcall (heq ▸ hcid)).symm
  have hid : ∀ {m : Nat} {d : Call} {id : Nat},
      (rephase b.calls p.call (.registered p.id))[m]? = some d → d.phase.id? = some id →
      ∃ e, b.calls[m]? = some e ∧ e.phase.id? = some id := by
    intro m d id hd hdid
    rcases rephase_cases hcall hd with ⟨rfl, rfl⟩ | ⟨-, hd⟩
    · exact ⟨c, hcall, by rw [hcid]; exact hdid⟩
    · exact ⟨d, hd, hdid⟩
  refine ⟨?_, ?_, h.withdrawn_lt, ?_, ?_, ?_, ?_, ?_, ?_, ?_, ?_, ?_, h.answered_nodup⟩
  · intro m d id hd hdid
    obtain ⟨e, he, heid⟩ := hid hd hdid
    exact h.phase_lt he heid
  · intro q hq
    rcases List.mem_append.mp hq with hq | hq
    · exact h.tracked_lt q hq
    · obtain rfl := List.mem_singleton.mp hq
      exact h.phase_lt hcall hcid
  · intro m k d e id hd he hdid heid
    obtain ⟨d', hd', hdid'⟩ := hid hd hdid
    obtain ⟨e', he', heid'⟩ := hid he heid
    exact h.phase_inj hd' he' hdid' heid'
  · intro m d q hq hd hdid
    obtain ⟨e, he, heid⟩ := hid hd hdid
    rcases List.mem_append.mp hq with hq | hq
    · exact h.tracked_own hq he heid
    · obtain rfl := List.mem_singleton.mp hq
      exact h.phase_inj he hcall heid hcid
  · rw [List.map_append, List.nodup_append]
    refine ⟨h.ids_nodup, List.nodup_singleton _, ?_⟩
    intro id hid' id' hid''
    obtain ⟨q, hq, rfl⟩ := List.mem_map.mp hid'
    obtain rfl := List.mem_singleton.mp hid''
    exact hids q hq
  · rw [List.map_append, List.nodup_append]
    refine ⟨h.calls_nodup, List.nodup_singleton _, ?_⟩
    intro m hm m' hm'
    obtain ⟨q, hq, rfl⟩ := List.mem_map.mp hm
    obtain rfl := List.mem_singleton.mp hm'
    exact hcalls q hq
  · intro q hq
    rcases List.mem_append.mp hq with hq | hq
    · obtain ⟨d, hd, hrest⟩ := h.tracked_call q hq
      exact ⟨d, (getElem?_rephase_ne (hcalls q hq).symm).trans hd, hrest⟩
    · obtain rfl := List.mem_singleton.mp hq
      exact ⟨_, getElem?_rephase_self hcall, hword, Or.inl rfl⟩
  · intro m d id hd hheld hdword
    rcases rephase_cases hcall hd with ⟨rfl, rfl⟩ | ⟨-, hd⟩
    · simp only [Phase.heldId?, Option.some.injEq] at hheld
      exact ⟨p, List.mem_append_right _ (List.mem_singleton.mpr rfl), rfl, hheld⟩
    · obtain ⟨q, hq, hrest⟩ := h.held hd hheld hdword
      exact ⟨q, List.mem_append_left _ hq, hrest⟩
  · intro m d hd hdearly
    rcases rephase_cases hcall hd with ⟨rfl, rfl⟩ | ⟨-, hd⟩
    · exact hword
    · exact h.early hd hdearly
  · intro m d id hw hd hdid
    obtain ⟨e, he, heid⟩ := hid hd hdid
    exact h.withdrawn_free hw he heid
  · intro m
    rw [h.answered_iff, exists_word_rephase]

theorem Coherent.withdraw (h : Coherent b) {n id : Nat} {c : Call} {cause : TransportFault}
    (hcall : b.calls[n]? = some c) (hphase : c.phase = .refused id cause) :
    Coherent
      { b with
        calls := rephase b.calls n (.done (.error (.transport cause)))
        withdrawn := b.withdrawn ++ [id] } := by
  have hcid : c.phase.id? = some id := by simp [hphase, Phase.id?]
  have hadvances : Advances c (.done (.error (.transport cause))) := by
    constructor <;> simp [hphase, Phase.id?, Phase.heldId?, Phase.isEarly]
  have hrest := h.advance hcall hadvances
  refine ⟨hrest.phase_lt, hrest.tracked_lt, ?_, hrest.phase_inj, hrest.tracked_own,
    hrest.ids_nodup, hrest.calls_nodup, hrest.tracked_call, hrest.held, hrest.early, ?_,
    hrest.answered_iff, hrest.answered_nodup⟩
  · intro id' hw
    rcases List.mem_append.mp hw with hw | hw
    · exact h.withdrawn_lt id' hw
    · obtain rfl := List.mem_singleton.mp hw
      exact h.phase_lt hcall hcid
  · intro m d id' hw hd hdid
    rcases List.mem_append.mp hw with hw | hw
    · exact hrest.withdrawn_free hw hd hdid
    · obtain rfl := List.mem_singleton.mp hw
      rcases rephase_cases hcall hd with ⟨rfl, rfl⟩ | ⟨hne, hd⟩
      · simp [Phase.id?] at hdid
      · exact hne (h.phase_inj hcall hd hcid hdid)

/-- What the keeper forgets belongs to callers that are over. -/
theorem Coherent.forget (h : Coherent b) {tracked : List Pending} {withdrawn : List Nat}
    (htracked : List.Sublist tracked b.tracked)
    (hkept : ∀ p ∈ b.tracked, p ∈ tracked ∨ p.id ∈ b.withdrawn)
    (hwithdrawn : withdrawn ⊆ b.withdrawn) :
    Coherent { b with tracked := tracked, withdrawn := withdrawn } := by
  refine ⟨h.phase_lt, fun p hp => h.tracked_lt p (htracked.subset hp),
    fun id hw => h.withdrawn_lt id (hwithdrawn hw), h.phase_inj,
    fun hp hc hid => h.tracked_own (htracked.subset hp) hc hid,
    h.ids_nodup.sublist (htracked.map _), h.calls_nodup.sublist (htracked.map _),
    fun p hp => h.tracked_call p (htracked.subset hp), ?_, h.early,
    fun hw hc => h.withdrawn_free (hwithdrawn hw) hc, h.answered_iff, h.answered_nodup⟩
  intro n c id hcall hheld hword
  obtain ⟨p, hp, hn, hid⟩ := h.held hcall hheld hword
  rcases hkept p hp with hp | hw
  · exact ⟨p, hp, hn, hid⟩
  · exact absurd (Phase.id?_of_heldId? hheld) (h.withdrawn_free (hid ▸ hw) hcall)

/-- Words go to callers that waited for them, and those are tracked no more. -/
theorem Coherent.inform (h : Coherent b) {tracked : List Pending} {words : List (Nat × Outcome)}
    (htracked : List.Sublist tracked b.tracked) (hnodup : (words.map Prod.fst).Nodup)
    (hwords : ∀ n ∈ words.map Prod.fst, ∃ p ∈ b.tracked, p.call = n)
    (hkept : ∀ p ∈ b.tracked, p ∈ tracked ↔ p.call ∉ words.map Prod.fst) :
    Coherent
      { b with
        calls := tell b.calls words
        tracked := tracked
        answered := b.answered ++ words.map Prod.fst } := by
  -- a call has its old phase, and its old word unless it was told another one
  have hback : ∀ {n : Nat} {d : Call}, (tell b.calls words)[n]? = some d →
      ∃ c, b.calls[n]? = some c ∧ c.phase = d.phase := by
    intro n d hd
    obtain ⟨c, hc, heq⟩ := tell_frame hd
    exact ⟨c, hc, by rw [heq]⟩
  have htold : ∀ {n : Nat}, n ∈ words.map Prod.fst →
      ∃ d, (tell b.calls words)[n]? = some d ∧ d.word ≠ none := by
    intro n hn
    obtain ⟨p, hp, rfl⟩ := hwords n hn
    obtain ⟨c, hc, -⟩ := h.tracked_call p hp
    obtain ⟨⟨n, o⟩, hmem, heq⟩ := List.mem_map.mp hn
    dsimp only at heq
    subst heq
    exact ⟨_, by rw [getElem?_tell_of_mem hnodup hmem, hc]; rfl, by simp⟩
  refine ⟨?_, fun p hp => h.tracked_lt p (htracked.subset hp), h.withdrawn_lt, ?_, ?_,
    h.ids_nodup.sublist (htracked.map _), h.calls_nodup.sublist (htracked.map _), ?_, ?_, ?_, ?_,
    ?_, ?_⟩
  · intro n d id hd hdid
    obtain ⟨c, hc, hphase⟩ := hback hd
    exact h.phase_lt hc (hphase ▸ hdid)
  · intro n m d e id hd he hdid heid
    obtain ⟨c, hc, hphase⟩ := hback hd
    obtain ⟨c', hc', hphase'⟩ := hback he
    exact h.phase_inj hc hc' (hphase ▸ hdid) (hphase' ▸ heid)
  · intro n d p hp hd hdid
    obtain ⟨c, hc, hphase⟩ := hback hd
    exact h.tracked_own (htracked.subset hp) hc (hphase ▸ hdid)
  · intro p hp
    obtain ⟨c, hc, hrest⟩ := h.tracked_call p (htracked.subset hp)
    have hn := (hkept p (htracked.subset hp)).mp hp
    exact ⟨c, by rw [getElem?_tell_of_not_mem hn, hc], hrest⟩
  · intro n d id hd hheld hdword
    by_cases hn : n ∈ words.map Prod.fst
    · obtain ⟨d', hd', hd'word⟩ := htold hn
      rw [hd, Option.some.injEq] at hd'
      subst hd'
      exact absurd hdword hd'word
    · rw [getElem?_tell_of_not_mem hn] at hd
      obtain ⟨p, hp, hpn, hpid⟩ := h.held hd hheld hdword
      exact ⟨p, (hkept p hp).mpr (hpn ▸ hn), hpn, hpid⟩
  · intro n d hd hearly
    by_cases hn : n ∈ words.map Prod.fst
    · obtain ⟨p, hp, rfl⟩ := hwords n hn
      obtain ⟨c, hc, hphase⟩ := hback hd
      rw [← hphase, h.not_early hp hc] at hearly
      cases hearly
    · rw [getElem?_tell_of_not_mem hn] at hd
      exact h.early hd hearly
  · intro n d id hw hd hdid
    obtain ⟨c, hc, hphase⟩ := hback hd
    exact h.withdrawn_free hw hc (hphase ▸ hdid)
  · intro n
    rw [List.mem_append]
    constructor
    · rintro (hn | hn)
      · obtain ⟨c, hc, hword⟩ := h.answered_iff.mp hn
        by_cases hn' : n ∈ words.map Prod.fst
        · exact htold hn'
        · exact ⟨c, by rw [getElem?_tell_of_not_mem hn', hc], hword⟩
      · exact htold hn
    · rintro ⟨d, hd, hdword⟩
      by_cases hn : n ∈ words.map Prod.fst
      · exact Or.inr hn
      · rw [getElem?_tell_of_not_mem hn] at hd
        exact Or.inl (h.answered_iff.mpr ⟨d, hd, hdword⟩)
  · rw [List.nodup_append]
    refine ⟨h.answered_nodup, hnodup, ?_⟩
    rintro n hn m hm rfl
    obtain ⟨p, hp, rfl⟩ := hwords n hm
    obtain ⟨c, hc, hword, -⟩ := h.tracked_call p hp
    obtain ⟨d, hd, hdword⟩ := h.answered_iff.mp hn
    rw [hc, Option.some.injEq] at hd
    subst hd
    exact hdword hword

/-- Coherence survives every entry. -/
theorem Coherent.entry (h : Coherent b) (hentry : Entry b b') : Coherent b' := by
  cases hentry with
  | none => exact h
  | begin c hphase hword => exact h.begin hphase hword
  | advance hcall hadvances => exact h.advance hcall hadvances
  | draw hcall hphase => exact h.draw hcall hphase
  | register hcall hphase hn => exact h.register hcall hphase hn
  | withdraw hcall hphase => exact h.withdraw hcall hphase
  | forget _ _ htracked hkept hwithdrawn => exact h.forget htracked hkept hwithdrawn
  | tell _ _ htracked hnodup hwords hkept => exact h.inform htracked hnodup hwords hkept

end ConsoleTap.Exchange
