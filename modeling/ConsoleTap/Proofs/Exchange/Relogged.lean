import ConsoleTap.Exchange.Turn
import ConsoleTap.Proofs.Exchange.Notices

/-!
# Turns and the log

A turn is made of actions, and what it does next depends on everything but the log.  So it
writes the same notices into whatever log it finds.
-/

namespace ConsoleTap.Exchange

variable {f g : State → State}

/-- Whatever log there is, the function appends the same to it and does the same otherwise. -/
def Appends (f : State → State) : Prop :=
  ∀ s, ∃ notices, ∀ log, f (s.relogged log) = (f s).relogged (log ++ notices)

namespace Appends

theorem id : Appends fun s => s := fun _ => ⟨[], fun log => by rw [List.append_nil]⟩

theorem comp (hg : Appends g) (hf : Appends f) : Appends fun s => g (f s) := by
  intro s
  obtain ⟨first, hfirst⟩ := hf s
  obtain ⟨second, hsecond⟩ := hg (f s)
  refine ⟨first ++ second, fun log => ?_⟩
  change g (f (s.relogged log)) = (g (f s)).relogged _
  rw [hfirst, hsecond, List.append_assoc]

theorem foldl {α : Type} {f : State → α → State} (l : List α) (hf : ∀ x, Appends (f · x)) :
    Appends fun s => l.foldl f s := by
  induction l with
  | nil => exact id
  | cons x l ih => exact ih.comp (hf x)

/-- What is done may depend on anything in the state but its log. -/
theorem depending {α : Type} (read : State → α) (f : α → State → State)
    (hread : ∀ s log, read (s.relogged log) = read s) (hf : ∀ x, Appends (f x)) :
    Appends fun s => f (read s) s := by
  intro s
  obtain ⟨notices, h⟩ := hf (read s) s
  refine ⟨notices, fun log => ?_⟩
  change f (read (s.relogged log)) (s.relogged log) = (f (read s) s).relogged _
  rw [hread, h]

theorem ite {c : Prop} [Decidable c] (hf : Appends f) (hg : Appends g) :
    Appends fun s => if c then f s else g s := by
  by_cases hc : c
  · simpa only [if_pos hc] using hf
  · simpa only [if_neg hc] using hg

theorem attempt (a : Action) : Appends (·.attempt a) := by
  intro s
  refine ⟨if (step? s a).isSome then noticed s a else [], fun log => ?_⟩
  change (s.relogged log).attempt a = (s.attempt a).relogged _
  rw [State.attempt, State.attempt, step?_relogged]
  cases step? s a with
  | none => exact (congrArg s.relogged (List.append_nil log)).symm
  | some t => rfl

theorem note (n : Notice) : Appends (·.note n) := fun _ => ⟨[n], fun _ => rfl⟩

theorem callerTurn (sink : Sink) (n : Nat) : Appends (State.callerTurn sink n) :=
  foldl _ fun _ => depending (fun s => sink.verdict s.writes.length)
    (fun verdict s => s.attempt (.caller n verdict)) (fun _ _ => rfl) fun _ => attempt _

theorem closerTurn (n : Nat) : Appends (State.closerTurn n) := foldl _ fun _ => attempt _

theorem keeperExit : Appends State.keeperExit :=
  (attempt .stop).comp ((depending State.mailbox
    (fun mailbox s => mailbox.foldl (fun s _ => s.attempt .discard) s) (fun _ _ => rfl)
    fun _ => foldl _ fun _ => attempt .discard).comp (attempt .shut))

theorem keeperTurn : Appends State.keeperTurn := by
  have hhandle : Appends fun s => if s.keeper = .leaving then s.keeperExit else s :=
    depending State.keeper (fun keeper s => if keeper = .leaving then s.keeperExit else s)
      (fun _ _ => rfl) fun _ => ite keeperExit id
  exact depending (fun s => s.mailbox.isEmpty)
    (fun idle s => if idle then s.attempt .expire
      else if (s.attempt .handle).keeper = .leaving then (s.attempt .handle).keeperExit
        else s.attempt .handle)
    (fun _ _ => rfl) fun _ => ite (attempt .expire) (hhandle.comp (attempt .handle))

theorem keeperTurns : Appends State.keeperTurns :=
  depending (fun s => s.mailbox.length + 1)
    (fun turns s => (List.range turns).foldl (fun s _ => s.keeperTurn) s) (fun _ _ => rfl)
    fun _ => foldl _ fun _ => keeperTurn

end Appends

end ConsoleTap.Exchange
