import ConsoleTap.Settings.Environment
import ConsoleTap.Proofs.Text.Front
import Mathlib.Data.List.Infix
import Mathlib.Data.List.TakeWhile

/-!
# The references of a text

A text is cut into pieces, each a reference or a single character.  The cut loses
nothing, and what is behind a piece is cut as if it stood alone.  A reference has a
name without a closing brace, so it ends at the first one; and a `${` that belongs to
no reference is followed by a closing brace at once or by none at all.
-/

namespace ConsoleTap.Settings

variable {s name : List Char} {ps qs : List Piece} {c : Char}

/-! ### One reference -/

theorem written_append (name after : List Char) :
    written name ++ after = '$' :: '{' :: (name ++ '}' :: after) := by
  simp [written]

/-- What is behind the reference at the front of a text. -/
theorem drop_of_written {rest more : List Char} (h : written name ++ more = c :: rest) :
    rest.drop (name.length + 2) = more := by
  have hdrop := congrArg (List.drop (name.length + 3)) h
  rw [List.drop_left' (by simp [written]), List.drop_succ_cons] at hdrop
  exact hdrop.symm

/-- A text begins with a reference if it begins with a name in its braces. -/
theorem referenceName?_eq_some_iff :
    referenceName? s = some name ↔ name ≠ [] ∧ '}' ∉ name ∧ written name <+: s := by
  constructor
  · intro h
    unfold referenceName? at h
    split at h
    · rename_i rest
      dsimp only at h
      split at h
      · cases h
      · rename_i hname
        obtain rfl := Option.some.inj h
        simp only [Bool.or_eq_true, List.isEmpty_iff, decide_eq_true_eq, not_or] at hname
        have hsplit := List.takeWhile_append_dropWhile (p := fun c => c ≠ '}') (l := rest)
        refine ⟨hname.1, fun hmem => ?_, ?_⟩
        · simpa using List.mem_takeWhile_imp hmem
        · -- the name does not take up all of the rest, so a closing brace follows it
          cases hrest : rest.dropWhile fun c => c ≠ '}' with
          | nil =>
              rw [hrest, List.append_nil] at hsplit
              exact absurd (congrArg List.length hsplit) hname.2
          | cons d more =>
              have hd : d = '}' := by
                have hhead := List.head?_dropWhile_not (fun c => decide (c ≠ '}')) rest
                rw [hrest] at hhead
                simpa using hhead
              rw [hrest, hd] at hsplit
              refine ⟨more, ?_⟩
              rw [written, List.cons_append, List.cons_append, List.append_assoc]
              exact congrArg (fun rest => '$' :: '{' :: rest) hsplit
    · cases h
  · rintro ⟨hne, hbrace, more, rfl⟩
    have htake : (name ++ '}' :: more).takeWhile (fun c => c ≠ '}') = name :=
      Text.takeWhile_before hbrace (by simp)
    simp only [written, List.cons_append, List.append_assoc, List.nil_append, referenceName?]
    rw [htake]
    simp [hne]

/-! ### The pieces of a text -/

/-- A piece as it stands in the text. -/
def Piece.text : Piece → List Char
  | .plain c => [c]
  | .reference name => written name

def Piece.isReference : Piece → Bool
  | .plain _ => false
  | .reference _ => true

theorem mem_references : name ∈ references s ↔ Piece.reference name ∈ pieces s := by
  rw [references, List.mem_filterMap]
  constructor
  · rintro ⟨p, hp, hname⟩
    cases p with
    | plain c => cases hname
    | reference other =>
        obtain rfl := Option.some.inj hname
        exact hp
  · exact fun hp => ⟨_, hp, rfl⟩

theorem flatMap_text_piecesBehind (s : List Char) (skipped : Nat) :
    (piecesBehind skipped s).flatMap Piece.text = s.drop skipped := by
  induction s generalizing skipped with
  | nil => simp [piecesBehind]
  | cons c rest ih =>
      cases skipped with
      | succ skipped => rw [piecesBehind, ih, List.drop_succ_cons]
      | zero =>
          rw [piecesBehind]
          split
          · rename_i name hname
            obtain ⟨-, -, more, hmore⟩ := referenceName?_eq_some_iff.mp hname
            rw [List.flatMap_cons, ih, drop_of_written hmore, List.drop_zero]
            exact hmore
          · rw [List.flatMap_cons, ih]
            rfl

/-- The pieces of a text make up the text. -/
theorem flatMap_text_pieces (s : List Char) : (pieces s).flatMap Piece.text = s :=
  flatMap_text_piecesBehind s 0

theorem piecesBehind_eq (s : List Char) (skipped : Nat) :
    piecesBehind skipped s = pieces (s.drop skipped) := by
  induction s generalizing skipped with
  | nil => simp [pieces, piecesBehind]
  | cons c rest ih =>
      cases skipped with
      | zero => rfl
      | succ skipped => rw [piecesBehind, ih, List.drop_succ_cons]

theorem eq_pieces_of_piecesBehind {skipped : Nat} (h : piecesBehind skipped s = ps ++ qs) :
    qs = pieces (qs.flatMap Piece.text) := by
  induction s generalizing skipped ps with
  | nil =>
      obtain ⟨-, rfl⟩ := List.append_eq_nil_iff.mp (h.symm.trans (by simp [piecesBehind]))
      rfl
  | cons c rest ih =>
      cases ps with
      | nil =>
          rw [List.nil_append] at h
          rw [← h, flatMap_text_piecesBehind, piecesBehind_eq]
      | cons p ps =>
          cases skipped with
          | succ skipped => exact ih h
          | zero =>
              rw [piecesBehind] at h
              split at h <;> exact ih (List.cons.inj h).2

/-- What is behind a piece is cut as if it stood alone. -/
theorem eq_pieces_of_append (h : pieces s = ps ++ qs) : qs = pieces (qs.flatMap Piece.text) :=
  eq_pieces_of_piecesBehind h

theorem pieces_cons (c : Char) (rest : List Char) :
    pieces (c :: rest) =
      match referenceName? (c :: rest) with
      | some name => .reference name :: pieces (rest.drop (name.length + 2))
      | none => .plain c :: pieces rest := by
  rw [pieces, piecesBehind]
  cases referenceName? (c :: rest) with
  | none => rfl
  | some name => exact congrArg (Piece.reference name :: ·) (piecesBehind_eq rest _)

/-- A piece that is a reference is one that the text has at this place. -/
theorem referenceName?_of_reference (h : pieces s = ps ++ .reference name :: qs) :
    referenceName? (written name ++ qs.flatMap Piece.text) = some name := by
  have hcut := eq_pieces_of_append h
  rw [List.flatMap_cons, Piece.text] at hcut
  have hfront : written name ++ qs.flatMap Piece.text =
      '$' :: ('{' :: name ++ ['}'] ++ qs.flatMap Piece.text) := rfl
  rw [hfront, pieces_cons] at hcut
  split at hcut
  · rename_i other hother
    obtain rfl := Piece.reference.inj (List.cons.inj hcut).1
    exact hother
  · cases (List.cons.inj hcut).1

/-- A character that is a piece of its own begins no reference. -/
theorem referenceName?_of_plain (h : pieces s = ps ++ .plain c :: qs) :
    referenceName? (c :: qs.flatMap Piece.text) = none := by
  have hcut := eq_pieces_of_append h
  rw [List.flatMap_cons, Piece.text, List.singleton_append, pieces_cons] at hcut
  split at hcut
  · cases (List.cons.inj hcut).1
  · assumption

theorem name_of_reference (h : pieces s = ps ++ .reference name :: qs) :
    name ≠ [] ∧ '}' ∉ name := by
  obtain ⟨hne, hbrace, -⟩ := referenceName?_eq_some_iff.mp (referenceName?_of_reference h)
  exact ⟨hne, hbrace⟩

theorem name_of_mem_references (h : name ∈ references s) : name ≠ [] ∧ '}' ∉ name := by
  obtain ⟨ps, qs, hsplit⟩ := List.append_of_mem (mem_references.mp h)
  exact name_of_reference hsplit

/-- Behind a `${` that belongs to no reference there is a closing brace at once, or none at all. -/
theorem closing_of_plain (h : pieces s = ps ++ .plain '$' :: .plain '{' :: qs) :
    (∃ rest, qs = .plain '}' :: rest) ∨ '}' ∉ qs.flatMap Piece.text := by
  by_cases hclose : '}' ∈ qs.flatMap Piece.text
  · left
    obtain ⟨name, more, hsplit, hbrace⟩ := List.eq_append_cons_of_mem hclose
    have hprefix : written name <+: '$' :: '{' :: qs.flatMap Piece.text :=
      ⟨more, by simp [written, hsplit]⟩
    have hnone := referenceName?_of_plain h
    rw [List.flatMap_cons] at hnone
    -- a name in front of the closing brace would make the two a reference
    have hname : name = [] := by
      by_contra hne
      cases hnone.symm.trans (referenceName?_eq_some_iff.mpr ⟨hne, hbrace, hprefix⟩)
    rw [hname, List.nil_append] at hsplit
    cases qs with
    | nil => cases hsplit
    | cons p rest =>
        cases p with
        | plain c => exact ⟨rest, by rw [(List.cons.inj hsplit).1]⟩
        | reference name => cases (List.cons.inj hsplit).1
  · exact Or.inr hclose

end ConsoleTap.Settings
