import ConsoleTap.Json.Value

/-!
# Noise among what is on its way

Whether a frame is noise depends on the moment at which it is taken: a reply that comes a
second time is, though the same frame was not when it came first.  So what waits carries
marks (`Strewn`), and what is heard is compared with them, frame by frame (`Unheeded`).
Where no frame can be taken for a reply any more, noise needs no marks (`Littered`).
-/

namespace ConsoleTap

open ConsoleTap.Json

/-- A frame on its way, and whether it is noise. -/
structure Mark where
  frame : Value
  noise : Bool

/-- The mark of an element, if it brings a frame. -/
def marked {α : Type} (frame? : α → Option Value) (noise : Bool) (x : α) : List Mark :=
  (frame? x).toList.map fun frame => ⟨frame, noise⟩

/-- The first list is the second one with noise strewn in; the marks tell of the frames that the
    first one brings, in order, which of them are noise. -/
inductive Strewn {α : Type} (frame? : α → Option Value) (noise : α → Prop) :
    List Mark → List α → List α → Prop where
  | nil : Strewn frame? noise [] [] []
  | keep {marks : List Mark} {noisy clean : List α} (x : α)
      (h : Strewn frame? noise marks noisy clean) :
      Strewn frame? noise (marked frame? false x ++ marks) (x :: noisy) (x :: clean)
  | drop {marks : List Mark} {noisy clean : List α} (x : α) (hx : noise x)
      (h : Strewn frame? noise marks noisy clean) :
      Strewn frame? noise (marked frame? true x ++ marks) (x :: noisy) clean

/-- The first list is the second one with noise strewn in, where nothing brings a frame. -/
def Littered {α : Type} (noise : α → Prop) (noisy clean : List α) : Prop :=
  ∃ marks, Strewn (fun _ => none) noise marks noisy clean

namespace Strewn

variable {α : Type} {frame? : α → Option Value} {noise : α → Prop} {marks marks₂ : List Mark}
  {noisy noisy₂ clean clean₂ : List α}

theorem append (h : Strewn frame? noise marks noisy clean)
    (h₂ : Strewn frame? noise marks₂ noisy₂ clean₂) :
    Strewn frame? noise (marks ++ marks₂) (noisy ++ noisy₂) (clean ++ clean₂) := by
  induction h with
  | nil => exact h₂
  | keep x h ih =>
      rw [List.append_assoc]
      exact .keep x ih
  | drop x hx h ih =>
      rw [List.append_assoc]
      exact .drop x hx ih

theorem keep_last (h : Strewn frame? noise marks noisy clean) (x : α) :
    Strewn frame? noise (marks ++ marked frame? false x) (noisy ++ [x]) (clean ++ [x]) := by
  have hlast := h.append (.keep x .nil)
  rwa [List.append_nil] at hlast

theorem drop_last (h : Strewn frame? noise marks noisy clean) {x : α} (hx : noise x) :
    Strewn frame? noise (marks ++ marked frame? true x) (noisy ++ [x]) clean := by
  have hlast := h.append (.drop x hx .nil)
  rwa [List.append_nil, List.append_nil] at hlast

end Strewn

namespace Littered

variable {α : Type} {noise : α → Prop} {noisy clean : List α}

theorem refl (l : List α) : Littered noise l l := by
  induction l with
  | nil => exact ⟨[], .nil⟩
  | cons x l ih =>
      obtain ⟨marks, h⟩ := ih
      exact ⟨_, .keep x h⟩

theorem keep_last (h : Littered noise noisy clean) (x : α) :
    Littered noise (noisy ++ [x]) (clean ++ [x]) := by
  obtain ⟨marks, h⟩ := h
  exact ⟨_, h.keep_last x⟩

theorem drop_last (h : Littered noise noisy clean) {x : α} (hx : noise x) :
    Littered noise (noisy ++ [x]) clean := by
  obtain ⟨marks, h⟩ := h
  exact ⟨_, h.drop_last hx⟩

variable {β : Type}

theorem map {f : α → α} (h : Littered noise noisy clean) (hf : ∀ x, noise x → noise (f x)) :
    Littered noise (noisy.map f) (clean.map f) := by
  obtain ⟨marks, h⟩ := h
  refine ⟨marks, ?_⟩
  induction h with
  | nil => exact .nil
  | keep x h ih => exact .keep (f x) ih
  | drop x hx h ih => exact .drop (f x) (hf x hx) ih

theorem findSome? {f : α → Option β} (h : Littered noise noisy clean)
    (hf : ∀ x, noise x → f x = none) : noisy.findSome? f = clean.findSome? f := by
  obtain ⟨marks, h⟩ := h
  induction h with
  | nil => rfl
  | keep x h ih => rw [List.findSome?_cons, List.findSome?_cons, ih]
  | drop x hx h ih => rw [List.findSome?_cons, hf x hx, ih]

theorem find? {p : α → Bool} (h : Littered noise noisy clean) (hp : ∀ x, noise x → p x = false) :
    noisy.find? p = clean.find? p := by
  obtain ⟨marks, h⟩ := h
  induction h with
  | nil => rfl
  | keep x h ih => rw [List.find?_cons, List.find?_cons, ih]
  | drop x hx h ih => rw [List.find?_cons_of_neg (by rw [hp x hx]; decide), ih]

end Littered

/-! ### What is heard -/

/-- A frame that was taken, and whether a pending request awaited it. -/
structure Hearing where
  frame : Value
  awaited : Bool

/-- No frame of noise is heard as the reply of a pending request. Frames are heard in the order in
    which they came, so the marks and the hearings are of the same frames. -/
def Unheeded (marks : List Mark) (heard : List Hearing) : Prop :=
  ∀ pair ∈ marks.zip heard, pair.1.frame = pair.2.frame → pair.1.noise = true →
    pair.2.awaited = false

theorem unheeded_cons {mark : Mark} {marks : List Mark} {hearing : Hearing} {heard : List Hearing} :
    Unheeded (mark :: marks) (hearing :: heard) ↔
      (mark.frame = hearing.frame → mark.noise = true → hearing.awaited = false) ∧
        Unheeded marks heard := by
  rw [Unheeded, List.zip_cons_cons, List.forall_mem_cons]
  rfl

theorem unheeded_of_all {marks : List Mark} {heard : List Hearing}
    (h : ((marks.map Mark.noise).zip (heard.map Hearing.awaited)).all
      (fun pair => !(pair.1 && pair.2)) = true) : Unheeded marks heard := by
  rw [List.zip_map, List.all_map] at h
  intro pair hpair _ hnoise
  have hnot := List.all_eq_true.mp h pair hpair
  rwa [Function.comp_apply, Prod.map_fst, Prod.map_snd, hnoise, Bool.true_and,
    Bool.not_eq_true'] at hnot

/-- What is shown before each of so many turns. -/
def during {σ β : Type} (turn : σ → σ) (shown : σ → List β) : Nat → σ → List β
  | 0, _ => []
  | n + 1, s => shown s ++ during turn shown n (turn s)

end ConsoleTap
