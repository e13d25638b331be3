import ConsoleTap.Proofs.Settings.References
import ConsoleTap.Settings.Source

/-!
# Variables that are not set

Which references a text has can be said without cutting it up: the first one is the
leftmost place where a name stands in its braces, and the others are those of what is
behind it.  A text is refused exactly if one of these names is not set, and the first
such name is reported.  The values have no say in it: a reference that only comes in
with a value is replaced or left alone, and never looked up.
-/

namespace ConsoleTap.Settings

variable {env : Environment} {s before after name : List Char} {names others : List (List Char)}
  {c : Char}

/-! ### The references of a text -/

/-- Between those two parts the text has a name in its braces. -/
structure RefersAt (s before name after : List Char) : Prop where
  cut : s = before ++ written name ++ after
  nonempty : name ≠ []
  unclosed : '}' ∉ name

/-- The text refers to those names, found from left to right and without overlap. -/
inductive Refers : List Char → List (List Char) → Prop
  | none {s : List Char} (h : ∀ before name after, ¬ RefersAt s before name after) : Refers s []
  | first {s before name after : List Char} {names : List (List Char)}
      (h : RefersAt s before name after)
      (leftmost : ∀ before' name' after', RefersAt s before' name' after' →
        before.length ≤ before'.length)
      (rest : Refers after names) : Refers s (name :: names)

theorem refersAt_nil_iff :
    RefersAt s [] name after ↔ referenceName? s = some name ∧ s = written name ++ after := by
  rw [referenceName?_eq_some_iff]
  constructor
  · rintro ⟨rfl, hne, hbrace⟩
    exact ⟨⟨hne, hbrace, after, rfl⟩, rfl⟩
  · rintro ⟨⟨hne, hbrace, -⟩, hcut⟩
    exact ⟨hcut, hne, hbrace⟩

theorem refersAt_cons_iff :
    RefersAt (c :: s) (c :: before) name after ↔ RefersAt s before name after :=
  ⟨fun h => ⟨(List.cons.inj h.cut).2, h.nonempty, h.unclosed⟩,
    fun h => ⟨congrArg (c :: ·) h.cut, h.nonempty, h.unclosed⟩⟩

/-- A reference of a text begins at its front or behind its first character. -/
theorem RefersAt.front_or_behind (h : RefersAt (c :: s) before name after) :
    before = [] ∨ ∃ before', before = c :: before' ∧ RefersAt s before' name after := by
  cases before with
  | nil => exact Or.inl rfl
  | cons d before' =>
      obtain rfl : c = d := (List.cons.inj h.cut).1
      exact Or.inr ⟨before', rfl, refersAt_cons_iff.mp h⟩

/-- At one place of a text there is one reference at most. -/
theorem RefersAt.unique {before' name' after' : List Char} (h : RefersAt s before name after)
    (h' : RefersAt s before' name' after') (hlength : before.length = before'.length) :
    name = name' ∧ after = after' := by
  have hcut := h.cut.symm.trans h'.cut
  rw [List.append_assoc, List.append_assoc] at hcut
  obtain ⟨-, hbehind⟩ := List.append_inj hcut hlength
  have hname := referenceName?_eq_some_iff.mpr
    ⟨h.nonempty, h.unclosed, List.prefix_append (written name) after⟩
  have hname' := referenceName?_eq_some_iff.mpr
    ⟨h'.nonempty, h'.unclosed, List.prefix_append (written name') after'⟩
  rw [hbehind] at hname
  obtain rfl := Option.some.inj (hname.symm.trans hname')
  exact ⟨rfl, List.append_cancel_left hbehind⟩

theorem Refers.unique (h : Refers s names) (h' : Refers s others) : names = others := by
  induction h generalizing others with
  | none h =>
      cases h' with
      | none => rfl
      | first hat => exact absurd hat (h _ _ _)
  | first hat leftmost _ ih =>
      cases h' with
      | none hnone => exact absurd hat (hnone _ _ _)
      | first hat' leftmost' rest' =>
          obtain ⟨rfl, rfl⟩ := hat.unique hat'
            (Nat.le_antisymm (leftmost _ _ _ hat') (leftmost' _ _ _ hat))
          rw [ih rest']

theorem references_cons (c : Char) (rest : List Char) :
    references (c :: rest) =
      match referenceName? (c :: rest) with
      | some name => name :: references (rest.drop (name.length + 2))
      | none => references rest := by
  rw [references, pieces_cons]
  cases referenceName? (c :: rest) <;> rfl

theorem refers_references (s : List Char) : Refers s (references s) := by
  match s with
  | [] => exact .none fun before name after h => by simpa [written] using congrArg List.length h.cut
  | c :: rest =>
      rw [references_cons]
      cases hname : referenceName? (c :: rest) with
      | some name =>
          obtain ⟨-, -, after, hafter⟩ := referenceName?_eq_some_iff.mp hname
          have hbehind := refers_references (rest.drop (name.length + 2))
          exact .first (refersAt_nil_iff.mpr ⟨hname, by rw [drop_of_written hafter, hafter]⟩)
            (fun _ _ _ _ => Nat.zero_le _) hbehind
      | none =>
          -- no reference begins at the front, so every place is one of the rest
          have hplace : ∀ {before name after}, RefersAt (c :: rest) before name after →
              ∃ before', before = c :: before' ∧ RefersAt rest before' name after := by
            intro before name after h
            refine h.front_or_behind.resolve_left fun hfront => ?_
            subst hfront
            cases hname.symm.trans (refersAt_nil_iff.mp h).1
          have hbehind := refers_references rest
          dsimp only
          generalize references rest = names at hbehind ⊢
          cases hbehind with
          | none h =>
              refine .none fun before name after hat => ?_
              obtain ⟨before', -, hat'⟩ := hplace hat
              exact h _ _ _ hat'
          | first h leftmost behind =>
              refine .first (refersAt_cons_iff.mpr h) (fun before' name' after' hat => ?_) behind
              obtain ⟨before'', rfl, hat'⟩ := hplace hat
              exact Nat.succ_le_succ (leftmost _ _ _ hat')
termination_by s.length

theorem refers_iff : Refers s names ↔ names = references s :=
  ⟨fun h => h.unique (refers_references s), fun h => h ▸ refers_references s⟩

/-! ### Looking the names up -/

/-- The environment has a variable of that name. -/
def IsSet (env : Environment) (name : List Char) : Prop :=
  (env.get? (String.ofList name)).isSome = true

instance (env : Environment) (name : List Char) : Decidable (IsSet env name) :=
  inferInstanceAs (Decidable (_ = true))

/-- The first of the names that is not set. -/
def FirstUnset (env : Environment) (names : List (List Char)) (name : String) : Prop :=
  ∃ before after, names = before ++ name.toList :: after ∧ (∀ earlier ∈ before, IsSet env earlier) ∧
    ¬ IsSet env name.toList

theorem exists_firstUnset_iff :
    (∃ name, FirstUnset env names name) ↔ ∃ name ∈ names, ¬ IsSet env name := by
  constructor
  · rintro ⟨name, before, after, rfl, -, hunset⟩
    exact ⟨name.toList, List.mem_append_right _ List.mem_cons_self, hunset⟩
  · induction names with
    | nil => rintro ⟨name, hname, -⟩; cases hname
    | cons head rest ih =>
        rintro ⟨name, hname, hunset⟩
        by_cases hhead : IsSet env head
        · have hrest : name ∈ rest := by
            rcases List.mem_cons.mp hname with rfl | hrest
            · exact absurd hhead hunset
            · exact hrest
          obtain ⟨first, before, after, rfl, hbefore, hfirst⟩ := ih ⟨name, hrest, hunset⟩
          exact ⟨first, head :: before, after, rfl, List.forall_mem_cons.mpr ⟨hhead, hbefore⟩, hfirst⟩
        · exact ⟨String.ofList head, [], rest, by rw [String.toList_ofList, List.nil_append], by simp,
            by rwa [String.toList_ofList]⟩

theorem firstUnset_cons_of_isSet {head : List Char} {name : String} (hhead : IsSet env head) :
    FirstUnset env (head :: names) name ↔ FirstUnset env names name := by
  constructor
  · rintro ⟨before, after, hsplit, hbefore, hunset⟩
    cases before with
    | nil =>
        obtain ⟨rfl, -⟩ := List.cons.inj hsplit
        exact absurd hhead hunset
    | cons _ before =>
        obtain ⟨rfl, hrest⟩ := List.cons.inj hsplit
        exact ⟨before, after, hrest, (List.forall_mem_cons.mp hbefore).2, hunset⟩
  · rintro ⟨before, after, rfl, hbefore, hunset⟩
    exact ⟨head :: before, after, rfl, List.forall_mem_cons.mpr ⟨hhead, hbefore⟩, hunset⟩

theorem firstUnset_cons_of_not_isSet {head : List Char} {name : String} (hhead : ¬ IsSet env head) :
    FirstUnset env (head :: names) name ↔ String.ofList head = name := by
  constructor
  · rintro ⟨before, after, hsplit, hbefore, -⟩
    cases before with
    | nil => rw [(List.cons.inj hsplit).1, String.ofList_toList]
    | cons _ before =>
        obtain ⟨rfl, -⟩ := List.cons.inj hsplit
        exact absurd (hbefore head List.mem_cons_self) hhead
  · rintro rfl
    exact ⟨[], names, by rw [String.toList_ofList, List.nil_append], by simp,
      by rwa [String.toList_ofList]⟩

/-- Replacing stops at the first name that is not set, whatever the text has become by then. -/
theorem expandNames_eq_error_iff {name : String} :
    expandNames env names s = .error name ↔ FirstUnset env names name := by
  induction names generalizing s with
  | nil =>
      refine ⟨nofun, ?_⟩
      rintro ⟨before, after, hsplit, -⟩
      exact absurd hsplit.symm (by simp)
  | cons head rest ih =>
      rw [expandNames]
      cases hvalue : env.get? (String.ofList head) with
      | some value =>
          rw [firstUnset_cons_of_isSet (by rw [IsSet, hvalue]; rfl)]
          exact ih
      | none =>
          rw [firstUnset_cons_of_not_isSet (by rw [IsSet, hvalue]; exact Bool.false_ne_true)]
          exact ⟨fun h => Except.error.inj h, fun h => congrArg Except.error h⟩

theorem expand_eq_error_iff {text name : String} :
    expand env text = .error name ↔ FirstUnset env (references text.toList) name := by
  rw [← expandNames_eq_error_iff (s := text.toList), expand]
  cases expandNames env (references text.toList) text.toList with
  | error other => exact ⟨fun h => congrArg _ (Except.error.inj h), fun h => congrArg _ (Except.error.inj h)⟩
  | ok expanded => exact ⟨nofun, nofun⟩

/-- A variable that is not set is the business of expansion alone, before the text is read. -/
theorem ofText_eq_variableNotSet_iff {text name : String} {home : Option String} :
    ofText env text home = .error (.variableNotSet name) ↔ expand env text = .error name := by
  rw [ofText]
  cases expand env text with
  | error other => simp
  | ok expanded =>
      dsimp only
      cases ofToml? expanded with
      | none => exact ⟨nofun, nofun⟩
      | some settings => exact ⟨nofun, nofun⟩

/-- Two environments with the same variables stop at the same name. -/
theorem firstUnset_congr {other : Environment} {name : String}
    (h : ∀ name ∈ names, IsSet other name ↔ IsSet env name) :
    FirstUnset other names name ↔ FirstUnset env names name := by
  refine exists_congr fun before => exists_congr fun after => and_congr_right fun hsplit => ?_
  subst hsplit
  exact and_congr
    (forall₂_congr fun earlier hmem => h earlier (List.mem_append_left _ hmem))
    (not_congr (h _ (List.mem_append_right _ List.mem_cons_self)))

/-! ### The variable that is reported -/

/-- A text refers to certain names, found from left to right without overlap.  It is refused for a
    variable exactly if one of these is not set, and the one reported is the first of them; whether
    the text could be read is not looked at before.  A name that comes in with a value only is never
    reported, and other values of the same variables, or another home directory, change nothing
    about the refusal. -/
theorem unset_variable_reported (env : Environment) (text : String) :
    ∃ names, (∀ others, Refers text.toList others ↔ others = names) ∧
      ((∃ name, expand env text = .error name) ↔ ∃ name ∈ names, ¬ IsSet env name) ∧
      (∀ name, expand env text = .error name ↔ FirstUnset env names name) ∧
      (∀ home name, ofText env text home = .error (.variableNotSet name) ↔
        FirstUnset env names name) ∧
      (∀ home, ∀ name : String, name.toList ∉ names →
        expand env text ≠ .error name ∧ ofText env text home ≠ .error (.variableNotSet name)) ∧
      (∀ other : Environment, (∀ name ∈ names, IsSet other name ↔ IsSet env name) →
        ∀ home home' name, (expand other text = .error name ↔ expand env text = .error name) ∧
          (ofText other text home' = .error (.variableNotSet name) ↔
            ofText env text home = .error (.variableNotSet name))) := by
  have hexpand : ∀ name, expand env text = .error name ↔
      FirstUnset env (references text.toList) name := fun name => expand_eq_error_iff
  have hof : ∀ home name, ofText env text home = .error (.variableNotSet name) ↔
      FirstUnset env (references text.toList) name :=
    fun home name => ofText_eq_variableNotSet_iff.trans (hexpand name)
  refine ⟨references text.toList, fun others => refers_iff, ?_, hexpand, hof, ?_, ?_⟩
  · rw [← exists_firstUnset_iff]
    exact exists_congr hexpand
  · have hmem : ∀ {name : String}, FirstUnset env (references text.toList) name →
        name.toList ∈ references text.toList := by
      rintro name ⟨before, after, hsplit, -⟩
      exact hsplit ▸ List.mem_append_right _ List.mem_cons_self
    exact fun home name hname => ⟨fun h => hname (hmem ((hexpand name).mp h)),
      fun h => hname (hmem ((hof home name).mp h))⟩
  · intro other hsame home home' name
    have hexpand' : expand other text = .error name ↔ expand env text = .error name := by
      rw [hexpand, expand_eq_error_iff]
      exact firstUnset_congr hsame
    exact ⟨hexpand', ofText_eq_variableNotSet_iff.trans
      (hexpand'.trans ofText_eq_variableNotSet_iff.symm)⟩

/-- An opener inside a name belongs to it, a brace that closes nothing does not begin a reference,
    and the comment sign has no meaning yet; the value of `A` would be a reference if it were looked
    at again. -/
example : ofText ⟨[("A", "$\x7bC\x7d")]⟩ "# $\x7b\x7d $\x7bA\x7d $\x7bA$\x7bB\x7d = [" =
    .error (.variableNotSet "A$\x7bB") := by
  decide +kernel

end ConsoleTap.Settings
