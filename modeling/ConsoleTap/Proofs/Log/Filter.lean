import ConsoleTap.Log.Filter
import ConsoleTap.Proofs.Results

/-!
# Filters that are torn

The positions of a directive's parts are found in its text without the white space around it,
and the parts are cut out of the text as it is.  With no white space in front the two agree:
every part is the one that was found, and the directive is not torn.
-/

namespace ConsoleTap.Text

/-! ### Cutting by bytes -/

theorem size_append (s t : List Char) : size (s ++ t) = size s + size t := by
  induction s with
  | nil => rw [List.nil_append, size, Nat.zero_add]
  | cons c s ih => rw [List.cons_append, size, size, ih, Nat.add_assoc]

theorem dropBytes?_cons (c : Char) (n : Nat) (rest : List Char) :
    dropBytes? (c.utf8Size + n) (c :: rest) = dropBytes? n rest := by
  have hpos : c.utf8Size + n = c.utf8Size + n - 1 + 1 :=
    (Nat.sub_add_cancel (Nat.le_add_right_of_le c.utf8Size_pos)).symm
  rw [hpos, dropBytes?, ← hpos, if_pos (Nat.le_add_right _ _), Nat.add_sub_cancel_left]

theorem takeBytes?_cons (c : Char) (n : Nat) (rest : List Char) :
    takeBytes? (c.utf8Size + n) (c :: rest) = (takeBytes? n rest).map (c :: ·) := by
  have hpos : c.utf8Size + n = c.utf8Size + n - 1 + 1 :=
    (Nat.sub_add_cancel (Nat.le_add_right_of_le c.utf8Size_pos)).symm
  rw [hpos, takeBytes?, ← hpos, if_pos (Nat.le_add_right _ _), Nat.add_sub_cancel_left]

theorem dropBytes?_size (front rest : List Char) :
    dropBytes? (size front) (front ++ rest) = some rest := by
  induction front with
  | nil => rw [size, List.nil_append, dropBytes?]
  | cons c front ih => rw [size, List.cons_append, dropBytes?_cons, ih]

theorem takeBytes?_size (front rest : List Char) :
    takeBytes? (size front) (front ++ rest) = some front := by
  induction front with
  | nil => rw [size, takeBytes?]
  | cons c front ih => rw [size, List.cons_append, takeBytes?_cons, ih, Option.map_some]

theorem cut?_size (front part rest : List Char) :
    cut? (front ++ part ++ rest) (size front) (size (front ++ part)) = some part := by
  rw [cut?, List.append_assoc, dropBytes?_size, size_append, Nat.add_sub_cancel_left,
    Option.bind_some, takeBytes?_size]

/-- Trimming takes away what is behind, if there is nothing in front. -/
theorem trim_prefix {s : List Char} (h : ∀ c ∈ s.head?, isBlank c = false) : trim s <+: s := by
  have hfront : s.dropWhile isBlank = s := by
    cases s with
    | nil => rfl
    | cons c rest => exact List.dropWhile_cons_of_neg (by simp [h c rfl])
  rw [trim, hfront]
  simpa using List.reverse_prefix.mpr (List.dropWhile_suffix isBlank (l := s.reverse))

end ConsoleTap.Text

namespace ConsoleTap.Log

variable {patternFault? : List Char → Option String} {draft : Draft} {tail field : List Char}
  {d : Directive} {i j : Nat}

/-! ### Parts of a directive -/

theorem le_find (s : List Char) (isSought : Char → Bool) (i : Nat) : i ≤ find s isSought i :=
  Nat.le_add_right _ _

theorem Draft.behind_eq (h : draft.trimmed ++ tail = draft.text) (i : Nat) :
    draft.behind i = .ok (draft.trimmed.drop i ++ tail) := by
  have htext : draft.text = draft.trimmed.take i ++ (draft.trimmed.drop i ++ tail) := by
    rw [← List.append_assoc, List.take_append_drop, h]
  rw [Draft.behind, htext, Text.dropBytes?_size]

theorem Draft.between_eq (h : draft.trimmed ++ tail = draft.text) (hij : i ≤ j) :
    draft.between i j = .ok ((draft.trimmed.take j).drop i) := by
  have hfront := List.take_append_drop i (draft.trimmed.take j)
  rw [List.take_take, Nat.min_eq_left hij] at hfront
  have hcut := Text.cut?_size (draft.trimmed.take i) ((draft.trimmed.take j).drop i)
    (draft.trimmed.drop j ++ tail)
  rw [hfront, ← List.append_assoc, List.take_append_drop, h] at hcut
  rw [Draft.between, hcut]

/-! ### Reading -/

theorem checkField_ne_torn : checkField patternFault? field ≠ .error .torn := by
  rw [checkField]
  split
  · nofun
  · split
    · nofun
    · split <;> nofun

namespace Directive

theorem withLevel_ne_torn (h : draft.trimmed ++ tail = draft.text) :
    d.withLevel draft i ≠ .error .torn := by
  rw [withLevel, draft.behind_eq h]
  intro htorn
  simp only [bind, Except.bind] at htorn
  split at htorn
  · cases htorn
  · split at htorn <;> cases htorn

theorem behindSpan_ne_torn (h : draft.trimmed ++ tail = draft.text) :
    d.behindSpan draft i ≠ .error .torn := by
  rw [behindSpan]
  split
  · nofun
  · exact withLevel_ne_torn h
  · nofun

theorem withFields_ne_torn (h : draft.trimmed ++ tail = draft.text) :
    d.withFields patternFault? draft i ≠ .error .torn := by
  rw [withFields]
  split
  · rw [Draft.between_eq h (le_find _ _ _)]
    intro htorn
    simp only [bind, Except.bind] at htorn
    split at htorn
    · cases htorn
    · split at htorn
      · rename_i hcheck
        cases htorn
        exact checkField_ne_torn hcheck
      · split at htorn
        · exact behindSpan_ne_torn h htorn
        · cases htorn
  · nofun

theorem withSpan_ne_torn (h : draft.trimmed ++ tail = draft.text) :
    d.withSpan patternFault? draft i ≠ .error .torn := by
  rw [withSpan]
  split
  · rw [Draft.between_eq h (le_find _ _ _)]
    exact behindSpan_ne_torn h
  · rw [Draft.between_eq h (le_find _ _ _)]
    exact withFields_ne_torn h
  · nofun

/-- A directive without white space in front is not torn. -/
theorem read_ne_torn {s : List Char} (hfront : ∀ c ∈ s.head?, Text.isBlank c = false) :
    read patternFault? s ≠ .error .torn := by
  obtain ⟨tail, h⟩ : (⟨s⟩ : Draft).trimmed <+: s := Text.trim_prefix hfront
  rw [read]
  split
  · nofun
  · exact withSpan_ne_torn h
  · split
    · nofun
    · dsimp only
      split
      · rw [Draft.between_eq h (Nat.zero_le _)]
        exact withLevel_ne_torn h
      · rw [Draft.between_eq h (Nat.zero_le _)]
        exact withSpan_ne_torn h
      · split <;> nofun

end Directive

/-- What is torn in a filter is a directive that has white space in front. -/
theorem exists_blank_of_torn {text : String} (h : readFilter patternFault? text = .error .torn) :
    ∃ part ∈ Text.splitOn ',' text.toList, ∃ c ∈ part.head?, Text.isBlank c = true := by
  obtain ⟨part, hpart, htorn⟩ := exists_of_mapM_eq_error h
  refine ⟨part, (List.mem_filter.mp hpart).1, ?_⟩
  by_contra hnone
  refine Directive.read_ne_torn (fun c hc => Bool.eq_false_iff.mpr fun hblank => ?_) htorn
  exact hnone ⟨c, hc, hblank⟩

end ConsoleTap.Log
