import ConsoleTap.Text.Lines
import Mathlib.Data.List.Basic

/-!
# Lines and joins

The lines of a text contain no line feed, and joined by line feeds they are the text again.
So texts whose lines were put one below the other can be read off from the lines: joined by
line feeds, the lines of all of them are the texts joined by line feeds.
-/

namespace ConsoleTap.Text

variable {sep : Char} {glue : String} {text : String} {texts : List String}

/-! ### Pieces between separators -/

theorem splitOn_ne_nil (sep : Char) (cs : List Char) : splitOn sep cs ≠ [] := by
  induction cs with
  | nil => simp [splitOn]
  | cons c rest ih =>
      rw [splitOn]
      split
      · simp
      · split <;> simp

theorem splitOn_cons_self (rest : List Char) : splitOn sep (sep :: rest) = [] :: splitOn sep rest := by
  rw [splitOn, if_pos rfl]

theorem splitOn_cons_of_ne {c : Char} {rest piece : List Char} {pieces : List (List Char)}
    (hc : c ≠ sep) (hrest : splitOn sep rest = piece :: pieces) :
    splitOn sep (c :: rest) = (c :: piece) :: pieces := by
  rw [splitOn, if_neg hc, hrest]

theorem not_mem_of_mem_splitOn {cs piece : List Char} (h : piece ∈ splitOn sep cs) : sep ∉ piece := by
  induction cs generalizing piece with
  | nil =>
      obtain rfl := List.mem_singleton.mp h
      exact List.not_mem_nil
  | cons c rest ih =>
      obtain ⟨first, pieces, hrest⟩ := List.exists_cons_of_ne_nil (splitOn_ne_nil sep rest)
      by_cases hc : c = sep
      · subst hc
        rw [splitOn_cons_self] at h
        rcases List.mem_cons.mp h with rfl | h
        · exact List.not_mem_nil
        · exact ih h
      · rw [splitOn_cons_of_ne hc hrest] at h
        rw [hrest] at ih
        rcases List.mem_cons.mp h with rfl | h
        · rw [List.mem_cons, not_or]
          exact ⟨Ne.symm hc, ih List.mem_cons_self⟩
        · exact ih (List.mem_cons_of_mem _ h)

theorem mem_of_mem_splitOn {cs piece : List Char} {c : Char} (h : piece ∈ splitOn sep cs)
    (hc : c ∈ piece) : c ∈ cs := by
  induction cs generalizing piece with
  | nil =>
      obtain rfl := List.mem_singleton.mp h
      exact hc
  | cons d rest ih =>
      obtain ⟨first, pieces, hrest⟩ := List.exists_cons_of_ne_nil (splitOn_ne_nil sep rest)
      have hmem : ∀ piece ∈ first :: pieces, c ∈ piece → c ∈ rest := by
        intro piece hpiece
        exact ih (hrest ▸ hpiece)
      by_cases hd : d = sep
      · subst hd
        rw [splitOn_cons_self, hrest] at h
        rcases List.mem_cons.mp h with rfl | h
        · cases hc
        · exact List.mem_cons_of_mem _ (hmem piece h hc)
      · rw [splitOn_cons_of_ne hd hrest] at h
        rcases List.mem_cons.mp h with rfl | h
        · rcases List.mem_cons.mp hc with rfl | hc
          · exact List.mem_cons_self
          · exact List.mem_cons_of_mem _ (hmem first List.mem_cons_self hc)
        · exact List.mem_cons_of_mem _ (hmem piece (List.mem_cons_of_mem _ h) hc)

/-! ### Joins -/

theorem joined_cons (glue text : String) (h : texts ≠ []) :
    joined glue (text :: texts) = text ++ glue ++ joined glue texts := by
  cases texts with
  | nil => exact absurd rfl h
  | cons next rest => rfl

theorem joined_append_head (glue start text : String) (texts : List String) :
    joined glue ((start ++ text) :: texts) = start ++ joined glue (text :: texts) := by
  cases texts with
  | nil => rfl
  | cons next rest => simp only [joined, String.append_assoc]

theorem joined_append {first second : List String} (hfirst : first ≠ []) (hsecond : second ≠ []) :
    joined glue (first ++ second) = joined glue first ++ glue ++ joined glue second := by
  induction first with
  | nil => exact absurd rfl hfirst
  | cons text rest ih =>
      cases rest with
      | nil => exact joined_cons glue text hsecond
      | cons next rest =>
          rw [List.cons_append, joined_cons glue text (by simp), ih (by simp),
            joined_cons glue text (by simp)]
          simp only [String.append_assoc]

/-- A text that is joined with others can be found in the whole. -/
theorem exists_joined_eq (glue : String) (h : text ∈ texts) :
    ∃ before after, joined glue texts = before ++ text ++ after := by
  induction texts with
  | nil => cases h
  | cons first rest ih =>
      rcases List.mem_cons.mp h with rfl | h
      · cases rest with
        | nil => exact ⟨"", "", by simp [joined]⟩
        | cons next rest =>
            refine ⟨"", glue ++ joined glue (next :: rest), ?_⟩
            simp [joined, String.append_assoc]
      · obtain ⟨before, after, hrest⟩ := ih h
        refine ⟨first ++ glue ++ before, after, ?_⟩
        rw [joined_cons glue first (List.ne_nil_of_mem h), hrest]
        simp only [String.append_assoc]

theorem mem_intercalate {glue : List Char} {pieces : List (List Char)} {c : Char}
    (h : c ∈ glue.intercalate pieces) : c ∈ glue ∨ ∃ piece ∈ pieces, c ∈ piece := by
  induction pieces with
  | nil => cases h
  | cons first rest ih =>
      cases rest with
      | nil => exact .inr ⟨first, List.mem_cons_self, by simpa using h⟩
      | cons next rest =>
          rw [List.intercalate_cons_cons, List.mem_append, List.mem_append] at h
          obtain (h | h) | h := h
          · exact .inr ⟨first, List.mem_cons_self, h⟩
          · exact .inl h
          · obtain h | ⟨piece, hmem, h⟩ := ih h
            · exact .inl h
            · exact .inr ⟨piece, List.mem_cons_of_mem _ hmem, h⟩

theorem toList_joined (glue : String) (texts : List String) :
    (joined glue texts).toList = glue.toList.intercalate (texts.map String.toList) := by
  induction texts with
  | nil => simp [joined]
  | cons first rest ih =>
      cases rest with
      | nil => simp [joined]
      | cons next rest =>
          rw [joined_cons glue first (by simp), String.toList_append, String.toList_append, ih]
          simp only [List.map_cons, List.intercalate_cons_cons]

/-- What is in a join: the glue and the texts. -/
theorem mem_joined {c : Char} (h : c ∈ (joined glue texts).toList) :
    c ∈ glue.toList ∨ ∃ text ∈ texts, c ∈ text.toList := by
  rw [toList_joined] at h
  obtain h | ⟨piece, hpiece, h⟩ := mem_intercalate h
  · exact .inl h
  · obtain ⟨text, htext, rfl⟩ := List.mem_map.mp hpiece
    exact .inr ⟨text, htext, h⟩

/-- Of a character that the texts are without, a join has what the glue has. -/
theorem count_joined {c : Char} (h : ∀ text ∈ texts, c ∉ text.toList) :
    (joined glue texts).toList.count c = (texts.length - 1) * glue.toList.count c := by
  induction texts with
  | nil => simp [joined]
  | cons first rest ih =>
      obtain ⟨hfirst, hrest⟩ := List.forall_mem_cons.mp h
      cases rest with
      | nil => simpa [joined] using List.count_eq_zero.mpr hfirst
      | cons next rest =>
          rw [joined_cons glue first (by simp), String.toList_append, String.toList_append,
            List.count_append, List.count_append, List.count_eq_zero.mpr hfirst, ih hrest,
            Nat.zero_add, Nat.add_comm]
          exact (Nat.succ_mul _ _).symm

/-! ### Lines -/

theorem lines_ne_nil (text : String) : lines text ≠ [] := by
  simpa [lines] using splitOn_ne_nil '\n' text.toList

theorem not_mem_of_mem_lines {line : String} (h : line ∈ lines text) : '\n' ∉ line.toList := by
  obtain ⟨piece, hpiece, rfl⟩ := List.mem_map.mp h
  rw [String.toList_ofList]
  exact not_mem_of_mem_splitOn hpiece

theorem joined_splitOn (cs : List Char) :
    joined "\n" ((splitOn '\n' cs).map String.ofList) = String.ofList cs := by
  induction cs with
  | nil => rfl
  | cons c rest ih =>
      obtain ⟨piece, pieces, hrest⟩ := List.exists_cons_of_ne_nil (splitOn_ne_nil '\n' rest)
      by_cases hc : c = '\n'
      · subst hc
        rw [splitOn_cons_self, List.map_cons, joined_cons _ _ (by simp [hrest]), ih, String.ofList_cons]
        rfl
      · rw [hrest] at ih
        rw [splitOn_cons_of_ne hc hrest, List.map_cons, String.ofList_cons, joined_append_head,
          ← List.map_cons, ih, String.ofList_cons]

/-- The lines of a text, joined by line feeds, are the text. -/
theorem joined_lines (text : String) : joined "\n" (lines text) = text := by
  rw [lines, joined_splitOn, String.ofList_toList]

/-- The lines of texts one below the other, joined by line feeds, are the texts joined by line
    feeds. -/
theorem joined_flatMap_lines (texts : List String) :
    joined "\n" (texts.flatMap lines) = joined "\n" texts := by
  induction texts with
  | nil => rfl
  | cons text rest ih =>
      cases rest with
      | nil => simpa [joined] using joined_lines text
      | cons next rest =>
          have hne : (next :: rest).flatMap lines ≠ [] := by
            simp [List.flatMap_cons, lines_ne_nil]
          rw [List.flatMap_cons, joined_append (lines_ne_nil text) hne, ih, joined_lines,
            joined_cons "\n" text (by simp)]

end ConsoleTap.Text
