import Mathlib.Data.Option.Basic

/-!
# Results

What is done step by step may fail at any step.  Where it succeeds every step did, and where
it fails one step is to blame.  And where two things are done side by side, they stay related
if each step takes place in both or in neither (`Option.Rel`).
-/

namespace ConsoleTap

/-! ### One after the other -/

section Except

variable {ε α β : Type} {x : Except ε α} {f : α → Except ε β} {b : β} {cause : ε}

theorem bind_eq_ok_iff : x >>= f = .ok b ↔ ∃ a, x = .ok a ∧ f a = .ok b := by
  cases x <;> simp [bind, Except.bind]

theorem bind_eq_error_iff :
    x >>= f = .error cause ↔ x = .error cause ∨ ∃ a, x = .ok a ∧ f a = .error cause := by
  cases x <;> simp [bind, Except.bind]

theorem check_bind_eq_ok_iff {x : Except ε Unit} {f : Unit → Except ε β} :
    x >>= f = .ok b ↔ x = .ok () ∧ f () = .ok b := by
  cases x <;> simp [bind, Except.bind]

theorem throw_if_eq_ok_iff {c : Prop} [Decidable c] {y : Except ε β} :
    (if c then throw cause >>= f else y) = .ok b ↔ ¬c ∧ y = .ok b := by
  by_cases hc : c <;> simp [hc, throw, throwThe, MonadExceptOf.throw, bind, Except.bind]

theorem map_eq_ok_iff {g : α → β} : x.map g = .ok b ↔ ∃ a, x = .ok a ∧ g a = b := by
  cases x <;> simp [Except.map]

end Except

/-- What a list was turned into item by item came from its items. -/
theorem exists_of_mem_mapM {α β : Type} {f : α → Option β} {l : List α} {r : List β} {b : β}
    (h : l.mapM f = some r) (hb : b ∈ r) : ∃ a ∈ l, f a = some b := by
  induction l generalizing r with
  | nil =>
      cases h
      cases hb
  | cons a rest ih =>
      simp only [List.mapM_cons, Option.bind_eq_bind, Option.bind_eq_some_iff, Option.pure_def,
        Option.some.injEq] at h
      obtain ⟨first, hfirst, behind, hbehind, rfl⟩ := h
      rcases List.mem_cons.mp hb with rfl | hb
      · exact ⟨a, List.mem_cons_self, hfirst⟩
      · obtain ⟨a, ha, hfa⟩ := ih hbehind hb
        exact ⟨a, List.mem_cons_of_mem _ ha, hfa⟩

/-- What went wrong with a list went wrong with one of its items. -/
theorem exists_of_mapM_eq_error {ε α β : Type} {f : α → Except ε β} {l : List α} {cause : ε}
    (h : l.mapM f = .error cause) : ∃ a ∈ l, f a = .error cause := by
  induction l with
  | nil => cases h
  | cons a rest ih =>
      rw [List.mapM_cons, bind_eq_error_iff] at h
      rcases h with hfirst | ⟨b, -, hbehind⟩
      · exact ⟨a, List.mem_cons_self, hfirst⟩
      · rcases bind_eq_error_iff.mp hbehind with hrest | ⟨bs, -, hpure⟩
        · obtain ⟨a, ha, hfa⟩ := ih hrest
          exact ⟨a, List.mem_cons_of_mem _ ha, hfa⟩
        · cases hpure

/-! ### Side by side -/

section Related

variable {α β : Type} {R : α → α → Prop} {a' a : α} {r' r : Option α}

theorem rel_getD (hr : Option.Rel R r' r) (h : R a' a) : R (r'.getD a') (r.getD a) := by
  cases hr with
  | none => exact h
  | some ht => exact ht

theorem rel_bind {f' f : α → Option α} (hr : Option.Rel R r' r)
    (hf : ∀ {a' a : α}, R a' a → Option.Rel R (f' a') (f a)) :
    Option.Rel R (r'.bind f') (r.bind f) := by
  cases hr with
  | none => exact .none
  | some ht => exact hf ht

theorem rel_none_iff (hr : Option.Rel R r' r) : r' = none ↔ r = none := by
  cases hr with
  | none => exact Iff.rfl
  | some ht => exact ⟨nofun, nofun⟩

theorem rel_guard {c' c : Prop} [Decidable c'] [Decidable c] (hc : c' ↔ c) (h : R a' a) :
    Option.Rel R (if c' then some a' else none) (if c then some a else none) := by
  by_cases hguard : c
  · rw [if_pos hguard, if_pos (hc.mpr hguard)]
    exact .some h
  · rw [if_neg hguard, if_neg (mt hc.mp hguard)]
    exact .none

/-- Turns that keep two things related one by one keep them related together. -/
theorem rel_foldl {f : α → β → α} (l : List β)
    (hf : ∀ {a' a : α} (x : β), R a' a → R (f a' x) (f a x)) (h : R a' a) :
    R (l.foldl f a') (l.foldl f a) :=
  List.foldl_rel h fun x _ _ _ h => hf x h

end Related

end ConsoleTap
