import Mathlib.Data.List.TakeWhile

/-!
# The front of a text

Where a text is read up to the first character of another kind, what is read is the front of
the text, and the text determines it.  The most common front is what stands before a separator.
-/

namespace ConsoleTap.Text

variable {p : Char → Bool} {sep : Char} {front rest front' rest' : List Char}

theorem takeWhile_front (hfront : ∀ c ∈ front, p c = true) (hrest : ∀ c ∈ rest.head?, p c = false) :
    (front ++ rest).takeWhile p = front := by
  rw [List.takeWhile_append_of_pos hfront]
  cases rest with
  | nil => exact List.append_nil front
  | cons c rest =>
      rw [List.takeWhile_cons_of_neg (by simpa using hrest c rfl), List.append_nil]

theorem dropWhile_front (hfront : ∀ c ∈ front, p c = true) (hrest : ∀ c ∈ rest.head?, p c = false) :
    (front ++ rest).dropWhile p = rest := by
  rw [List.dropWhile_append_of_pos hfront]
  cases rest with
  | nil => rfl
  | cons c rest => exact List.dropWhile_cons_of_neg (by simpa using hrest c rfl)

/-- A front ends before a character of another kind. -/
theorem stops_at (hsep : p sep = false) : ∀ c ∈ (sep :: rest).head?, p c = false := by
  intro c hc
  rwa [← Option.some.inj hc]

/-- What the first characters of two texts have in common, the first of both together has. -/
theorem forall_head_append {P : Char → Prop} (hfront : ∀ c ∈ front.head?, P c)
    (hrest : ∀ c ∈ rest.head?, P c) : ∀ c ∈ (front ++ rest).head?, P c := by
  cases front with
  | nil => exact hrest
  | cons c front => exact hfront

/-- Every text has a front, which may be empty or all of it. -/
theorem exists_front (p : Char → Bool) (s : List Char) :
    ∃ front rest, s = front ++ rest ∧ (∀ c ∈ front, p c = true) ∧
      ∀ c ∈ rest.head?, p c = false := by
  refine ⟨s.takeWhile p, s.dropWhile p, List.takeWhile_append_dropWhile.symm,
    fun c hc => List.mem_takeWhile_imp hc, ?_⟩
  intro c hc
  have hstop := List.head?_dropWhile_not p s
  rw [Option.mem_def.mp hc] at hstop
  exact hstop

/-- A text has one front only. -/
theorem front_unique (hfront : ∀ c ∈ front, p c = true) (hrest : ∀ c ∈ rest.head?, p c = false)
    (hfront' : ∀ c ∈ front', p c = true) (hrest' : ∀ c ∈ rest'.head?, p c = false)
    (h : front ++ rest = front' ++ rest') : front = front' ∧ rest = rest' := by
  constructor
  · rw [← takeWhile_front hfront hrest, h, takeWhile_front hfront' hrest']
  · rw [← dropWhile_front hfront hrest, h, dropWhile_front hfront' hrest']

/-- What stands before the first separator. -/
theorem takeWhile_before (hfront : sep ∉ front) (hrest : ∀ c ∈ rest.head?, c = sep) :
    (front ++ rest).takeWhile (· ≠ sep) = front := by
  apply takeWhile_front
  · intro c hc
    exact decide_eq_true (ne_of_mem_of_not_mem hc hfront)
  · intro c hc
    exact decide_eq_false (not_not_intro (hrest c hc))

end ConsoleTap.Text
