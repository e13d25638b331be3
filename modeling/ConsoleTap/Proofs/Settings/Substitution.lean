import ConsoleTap.Proofs.Settings.References
import Mathlib.Data.List.Basic
import Mathlib.Data.List.Perm.Basic

/-!
# Expansion as substitution

Replacing every reference of a text at once is what expansion is for.  It is done one
reference after the other, in the text as it is by then.  That comes to the same as
long as each reference is found only where the text itself has it, in whatever order
the references are taken.  It is so if expanding brings no `${` together and no
reference of the text ends with another one; otherwise a value can be expanded again.
-/

namespace ConsoleTap.Settings

variable {env : Environment} {s name value : List Char} {names done : List (List Char)}
  {ps qs : List Piece}

/-! ### Replacing a pattern -/

section Replacing

variable {pattern x y : List Char}

theorem replaceBehind_eq (pattern value : List Char) (skipped : Nat) (s : List Char) :
    replaceBehind pattern value skipped s = replaceAll pattern value (s.drop skipped) := by
  induction s generalizing skipped with
  | nil => simp [replaceAll, replaceBehind]
  | cons c rest ih =>
      cases skipped with
      | zero => rfl
      | succ skipped => rw [replaceBehind, ih, List.drop_succ_cons]

/-- An occurrence at the front is replaced. -/
theorem replaceAll_append_pattern (hne : pattern ≠ []) (y : List Char) :
    replaceAll pattern value (pattern ++ y) = value ++ replaceAll pattern value y := by
  cases pattern with
  | nil => exact absurd rfl hne
  | cons c rest =>
      have hprefix : (c :: rest).isPrefixOf (c :: (rest ++ y)) = true := by
        rw [List.isPrefixOf_iff_prefix]
        exact List.prefix_append (c :: rest) y
      rw [List.cons_append, replaceAll, replaceBehind, if_pos hprefix, replaceBehind_eq,
        List.length_cons, Nat.add_sub_cancel, List.drop_left]

/-- A part in which no occurrence begins is kept. -/
theorem replaceAll_append (h : ∀ a b, x = a ++ b → b ≠ [] → ¬ pattern <+: b ++ y) :
    replaceAll pattern value (x ++ y) = x ++ replaceAll pattern value y := by
  induction x with
  | nil => rfl
  | cons c rest ih =>
      have hhead : ¬ pattern.isPrefixOf (c :: (rest ++ y)) = true := by
        rw [List.isPrefixOf_iff_prefix]
        exact h [] (c :: rest) rfl (List.cons_ne_nil _ _)
      rw [List.cons_append, replaceAll, replaceBehind, if_neg hhead, ← replaceAll,
        ih fun a b hab => h (c :: a) b (congrArg (c :: ·) hab)]
      rfl

end Replacing

/-! ### What a text becomes -/

/-- The value that takes the place of a reference. -/
def valueOf (env : Environment) (name : List Char) : List Char :=
  ((env.get? (String.ofList name)).getD "").toList

/-- A piece in the text that is wanted. -/
def Piece.substituted (env : Environment) : Piece → List Char
  | .plain c => [c]
  | .reference name => valueOf env name

/-- The text with each of its references replaced by the value of its variable, all at once. -/
def substitute (env : Environment) (s : List Char) : List Char :=
  (pieces s).flatMap (Piece.substituted env)

/-- A piece after the references with those names were replaced. -/
def Piece.filled (env : Environment) (done : List (List Char)) : Piece → List Char
  | .plain c => [c]
  | .reference name => if name ∈ done then valueOf env name else written name

/-- The text after the references with those names were replaced. -/
def partly (env : Environment) (done : List (List Char)) (s : List Char) : List Char :=
  (pieces s).flatMap (Piece.filled env done)

theorem partly_nil : partly env [] s = s := by
  have hfilled : Piece.filled env [] = Piece.text := by
    funext p
    cases p <;> rfl
  rw [partly, hfilled, flatMap_text_pieces]

theorem partly_eq_substitute (h : references s ⊆ names) : partly env names s = substitute env s := by
  refine List.flatMap_congr fun p hp => ?_
  cases p with
  | plain c => rfl
  | reference name => exact if_pos (h (mem_references.mpr hp))

/-! ### One reference after the other -/

/-- The text shows the reference with that name at that place because it has it there. -/
def OwnAt (env : Environment) (done : List (List Char)) (s name before : List Char) : Prop :=
  name ∉ done ∧ ∃ ps qs, pieces s = ps ++ .reference name :: qs ∧
    before = ps.flatMap (Piece.filled env done)

/-- When the references are taken in that order, each is found only where the text has it. -/
def FindsOwn (env : Environment) (s : List Char) (names : List (List Char)) : Prop :=
  ∀ done name rest, names = done ++ name :: rest →
    ∀ before after, partly env done s = before ++ written name ++ after →
      OwnAt env done s name before

theorem filled_snoc_of_ne {p : Piece} (h : name ∈ done ∨ p ≠ .reference name) :
    p.filled env (done ++ [name]) = p.filled env done := by
  cases p with
  | plain c => rfl
  | reference other =>
      have hmem : other ∈ done ++ [name] ↔ other ∈ done := by
        rw [List.mem_append, List.mem_singleton, or_iff_left_iff_imp]
        rintro rfl
        exact h.resolve_right fun hne => hne rfl
      simp only [Piece.filled, hmem]

/-- Two cuts of the pieces, the one inside a piece and the other in front of a reference, are at
    the same place only if the piece is the reference. -/
theorem eq_of_cut {p : Piece} {ps' qs' : List Piece} {a b : List Char}
    (hcut : pieces s = ps ++ p :: qs) (hcut' : pieces s = ps' ++ .reference name :: qs')
    (hname : name ∉ done) (hp : p.filled env done = a ++ b) (hb : b ≠ [])
    (hplace : ps.flatMap (Piece.filled env done) ++ a = ps'.flatMap (Piece.filled env done)) :
    p = .reference name ∧ a = [] := by
  have hlength := congrArg List.length hplace
  have hpositive := List.length_pos_iff.mpr hb
  rw [List.length_append] at hlength
  rcases List.append_eq_append_iff.mp (hcut.symm.trans hcut') with
    ⟨mid, rfl, hmid⟩ | ⟨mid, rfl, hmid⟩
  · cases mid with
    | nil =>
        obtain ⟨rfl, -⟩ := List.cons.inj hmid
        refine ⟨rfl, ?_⟩
        rw [List.append_nil] at hlength
        exact List.eq_nil_of_length_eq_zero (by omega)
    | cons r mid =>
        -- the reference would lie behind the piece
        obtain ⟨rfl, -⟩ := List.cons.inj hmid
        rw [List.flatMap_append, List.flatMap_cons, hp] at hlength
        simp only [List.length_append] at hlength
        omega
  · cases mid with
    | nil =>
        obtain ⟨rfl, -⟩ := List.cons.inj hmid
        refine ⟨rfl, ?_⟩
        rw [List.append_nil] at hlength
        exact List.eq_nil_of_length_eq_zero (by omega)
    | cons r mid =>
        -- the reference would lie in front of the piece
        obtain ⟨rfl, -⟩ := List.cons.inj hmid
        rw [List.flatMap_append, List.flatMap_cons, Piece.filled, if_neg hname] at hlength
        simp only [List.length_append, written, List.length_cons] at hlength
        omega

/-- If a reference is found only where the text has it, replacing it touches nothing else. -/
theorem replaceAll_partly
    (hown : ∀ before after, partly env done s = before ++ written name ++ after →
      OwnAt env done s name before) :
    replaceAll (written name) (valueOf env name) (partly env done s) =
      partly env (done ++ [name]) s := by
  -- the induction is on the pieces behind the place that the replacement has got to
  have key : ∀ qs ps, pieces s = ps ++ qs →
      replaceAll (written name) (valueOf env name) (qs.flatMap (Piece.filled env done)) =
        qs.flatMap (Piece.filled env (done ++ [name])) := by
    intro qs
    induction qs with
    | nil => exact fun _ _ => rfl
    | cons p qs ih =>
        intro ps hcut
        have hrest := ih (ps ++ [p]) (by rw [hcut, List.append_assoc, List.singleton_append])
        rw [List.flatMap_cons, List.flatMap_cons]
        by_cases hp : name ∈ done ∨ p ≠ .reference name
        · rw [replaceAll_append, hrest, filled_snoc_of_ne hp]
          rintro a b hab hb ⟨after, hafter⟩
          have hplace : partly env done s =
              ps.flatMap (Piece.filled env done) ++ a ++ written name ++ after := by
            rw [partly, hcut, List.flatMap_append, List.flatMap_cons, hab, List.append_assoc _ _ after,
              hafter]
            simp only [List.append_assoc]
          obtain ⟨hname, ps', qs', hcut', hbefore⟩ := hown _ _ hplace
          exact hp.elim hname fun hne => hne (eq_of_cut hcut hcut' hname hab hb hbefore).1
        · rw [not_or, not_not] at hp
          obtain ⟨hname, rfl⟩ := hp
          rw [Piece.filled, if_neg hname, replaceAll_append_pattern (by simp [written]), hrest,
            Piece.filled, if_pos (List.mem_append_right _ List.mem_cons_self)]
  exact key (pieces s) [] rfl

theorem expandNames_partly (hset : ∀ name ∈ names, (env.get? (String.ofList name)).isSome = true)
    (hfinds : FindsOwn env s names) : expandNames env names s = .ok (partly env names s) := by
  have key : ∀ rest done, names = done ++ rest →
      expandNames env rest (partly env done s) = .ok (partly env names s) := by
    intro rest
    induction rest with
    | nil =>
        intro done hdone
        rw [expandNames, hdone, List.append_nil]
    | cons name rest ih =>
        intro done hdone
        have hmem : name ∈ names := hdone ▸ List.mem_append_right _ List.mem_cons_self
        obtain ⟨value, hvalue⟩ := Option.isSome_iff_exists.mp (hset name hmem)
        have hvalueOf : value.toList = valueOf env name := by rw [valueOf, hvalue]; rfl
        rw [expandNames, hvalue]
        simp only
        rw [hvalueOf, replaceAll_partly (hfinds done name rest hdone),
          ih (done ++ [name]) (by rw [hdone, List.append_assoc, List.singleton_append])]
  have hstart := key names [] rfl
  rwa [partly_nil] at hstart

/-! ### When nothing is mistaken for a reference -/

/-- Whether a `${` begins in the first of these pieces once they are expanded, in the value of a
    reference or with characters that stood apart. -/
def opens (env : Environment) : List Piece → Bool
  | [] => false
  | p :: qs =>
      (p.isReference || (qs.head?.map Piece.isReference).getD false) &&
        decide (['$', '{'] <:+: p.substituted env ++ (qs.flatMap (Piece.substituted env)).take 1)

/-- Expanding brings no `${` together that the text does not have. -/
def OpensNothing (env : Environment) (s : List Char) : Prop :=
  ∀ qs ∈ (pieces s).tails, opens env qs = false

instance (env : Environment) (s : List Char) : Decidable (OpensNothing env s) :=
  inferInstanceAs (Decidable (∀ qs ∈ (pieces s).tails, opens env qs = false))

/-- No reference of the text ends with another one. -/
def SetApart (s : List Char) : Prop :=
  ∀ name ∈ references s, ∀ other ∈ references s, written name <:+ written other → name = other

instance (s : List Char) : Decidable (SetApart s) :=
  inferInstanceAs (Decidable (∀ name ∈ references s, ∀ other ∈ references s,
    written name <:+ written other → name = other))

theorem OpensNothing.opens_eq_false (h : OpensNothing env s) (hcut : pieces s = ps ++ qs) :
    opens env qs = false :=
  h qs ((List.mem_tails _ _).mpr ⟨ps, hcut.symm⟩)

/-- Every place in what pieces become lies in one of them. -/
theorem exists_piece_at {f : Piece → List Char} {before rest : List Char}
    (h : ps.flatMap f = before ++ rest) (hrest : rest ≠ []) :
    ∃ ps₁ p ps₂ a b, ps = ps₁ ++ p :: ps₂ ∧ f p = a ++ b ∧ b ≠ [] ∧
      before = ps₁.flatMap f ++ a ∧ rest = b ++ ps₂.flatMap f := by
  induction ps generalizing before with
  | nil => exact absurd (List.append_eq_nil_iff.mp h.symm).2 hrest
  | cons p ps ih =>
      have hbehind : ∀ before', ps.flatMap f = before' ++ rest → before = f p ++ before' →
          ∃ ps₁ q ps₂ a b, p :: ps = ps₁ ++ q :: ps₂ ∧ f q = a ++ b ∧ b ≠ [] ∧
            before = ps₁.flatMap f ++ a ∧ rest = b ++ ps₂.flatMap f := by
        intro before' hps hbefore
        obtain ⟨ps₁, q, ps₂, a, b, rfl, hq, hb, rfl, hmid⟩ := ih hps
        exact ⟨p :: ps₁, q, ps₂, a, b, rfl, hq, hb, by rw [hbefore, List.flatMap_cons,
          List.append_assoc], hmid⟩
      rw [List.flatMap_cons] at h
      rcases List.append_eq_append_iff.mp h with ⟨before', hbefore, hps⟩ | ⟨b, hp, hmid⟩
      · exact hbehind before' hps hbefore
      · by_cases hb : b = []
        · subst hb
          rw [List.append_nil] at hp
          rw [List.nil_append] at hmid
          exact hbehind [] hmid.symm (by rw [hp, List.append_nil])
        · exact ⟨[], p, ps, before, b, rfl, hp, hb, rfl, hmid⟩

/-- What begins with an opening brace after some of the references were replaced does so after all
    of them were. -/
theorem brace_of_filled {rest : List Char} (h : qs.flatMap (Piece.filled env done) = '{' :: rest) :
    (qs.flatMap (Piece.substituted env)).take 1 = ['{'] := by
  induction qs with
  | nil => cases h
  | cons p qs ih =>
      rw [List.flatMap_cons] at h ⊢
      cases p with
      | plain c => rw [Piece.substituted, (List.cons.inj h).1]; rfl
      | reference name =>
          rw [Piece.filled] at h
          split at h
          · rw [Piece.substituted]
            cases hvalue : valueOf env name with
            | nil =>
                rw [hvalue] at h
                exact ih h
            | cons c value =>
                rw [hvalue] at h
                rw [(List.cons.inj h).1]
                rfl
          · cases (List.cons.inj h).1

theorem filled_of_no_closing (h : '}' ∉ qs.flatMap Piece.text) :
    qs.flatMap (Piece.filled env done) = qs.flatMap Piece.text := by
  refine List.flatMap_congr fun p hp => ?_
  cases p with
  | plain c => rfl
  | reference name =>
      exact absurd (List.mem_flatMap.mpr ⟨_, hp, by simp [Piece.text, written]⟩) h

theorem eq_of_first_closing {x y u v : List Char} (hx : '}' ∉ x) (hy : '}' ∉ y)
    (h : x ++ '}' :: u = y ++ '}' :: v) : x = y := by
  have hu : ∀ c ∈ ('}' :: u).head?, c = '}' := by simp
  have hv : ∀ c ∈ ('}' :: v).head?, c = '}' := by simp
  rw [← Text.takeWhile_before hx hu, h, Text.takeWhile_before hy hv]

/-- No reference begins at a character of the text that belongs to none. -/
theorem not_written_at_plain {c : Char} {after : List Char} (hopens : OpensNothing env s)
    (hcut : pieces s = ps ++ .plain c :: qs) (hne : name ≠ []) (hbrace : '}' ∉ name) :
    written name ++ after ≠ c :: qs.flatMap (Piece.filled env done) := by
  intro h
  rw [written_append] at h
  obtain ⟨rfl, hrest⟩ := List.cons.inj h
  cases qs with
  | nil => cases hrest
  | cons q qs =>
      cases q with
      | reference other =>
          -- only by expanding could the opening brace come next to the dollar sign
          have hclosed := hopens.opens_eq_false hcut
          rw [opens, brace_of_filled hrest.symm] at hclosed
          simp [Piece.substituted, Piece.isReference] at hclosed
      | plain d =>
          rw [List.flatMap_cons, Piece.filled, List.singleton_append] at hrest
          obtain ⟨rfl, hname⟩ := List.cons.inj hrest
          rcases closing_of_plain hcut with ⟨rest, rfl⟩ | hnone
          · cases name with
            | nil => exact hne rfl
            | cons e name =>
                have he : e = '}' := (List.cons.inj hname).1
                exact hbrace (he ▸ List.mem_cons_self)
          · rw [filled_of_no_closing hnone] at hname
            rw [← hname] at hnone
            exact hnone (List.mem_append_right _ List.mem_cons_self)

/-- No reference begins in the value of another one. -/
theorem not_written_in_value {other a b after : List Char} (hopens : OpensNothing env s)
    (hcut : pieces s = ps ++ .reference other :: qs) (hvalue : valueOf env other = a ++ b)
    (hb : b ≠ []) : written name ++ after ≠ b ++ qs.flatMap (Piece.filled env done) := by
  intro h
  rw [written_append] at h
  have hclosed := hopens.opens_eq_false hcut
  have hinfix : ['$', '{'] <:+: valueOf env other ++ (qs.flatMap (Piece.substituted env)).take 1 := by
    cases b with
    | nil => exact absurd rfl hb
    | cons c b =>
        obtain ⟨rfl, hrest⟩ := List.cons.inj h
        cases b with
        | nil =>
            refine ⟨a, [], ?_⟩
            rw [brace_of_filled hrest.symm, hvalue]
            simp
        | cons d b =>
            obtain ⟨rfl, -⟩ := List.cons.inj hrest
            refine ⟨a, b ++ (qs.flatMap (Piece.substituted env)).take 1, ?_⟩
            rw [hvalue]
            simp
  simp [opens, Piece.isReference, Piece.substituted, hinfix] at hclosed

/-- Where a reference is found in one that was not replaced, it is the end of that one. -/
theorem suffix_of_written {other a b u after : List Char} (hbrace : '}' ∉ name)
    (hother : '}' ∉ other) (hwritten : written other = a ++ b) (hb : b ≠ [])
    (h : written name ++ after = b ++ u) : b = written name := by
  have hbody : written other = ('$' :: '{' :: other) ++ ['}'] := rfl
  obtain ⟨body, hbody', rfl⟩ : ∃ body, body <:+ '$' :: '{' :: other ∧ b = body ++ ['}'] := by
    have hlast : b.getLast? = some '}' := by
      rw [← List.getLast?_append_of_ne_nil a hb, ← hwritten, hbody, List.getLast?_append]
      rfl
    obtain ⟨body, hbody'⟩ := List.getLast?_eq_some_iff.mp hlast
    refine ⟨body, ⟨a, ?_⟩, hbody'⟩
    rw [hbody', ← List.append_assoc, hbody] at hwritten
    exact (List.append_inj_left' hwritten rfl).symm
  have hname : written name ++ after = ('$' :: '{' :: name) ++ '}' :: after := written_append _ _
  rw [hname, List.append_assoc, List.singleton_append] at h
  have heq := eq_of_first_closing (by simpa using hbrace)
    (fun hmem => by simpa [hother] using hbody'.subset hmem) h
  rw [← heq]
  rfl

/-- If expanding brings no `${` together and no reference ends with another one, each reference is
    found only where the text has it, in whatever order they are taken. -/
theorem findsOwn_of_apart (hopens : OpensNothing env s) (hapart : SetApart s)
    (hnames : names ⊆ references s) : FindsOwn env s names := by
  rintro done name rest rfl before after hplace
  have hname : name ∈ references s := hnames (List.mem_append_right _ List.mem_cons_self)
  obtain ⟨hne, hbrace⟩ := name_of_mem_references hname
  rw [List.append_assoc] at hplace
  obtain ⟨ps, p, qs, a, b, hcut, hp, hb, hbefore, hrest⟩ :=
    exists_piece_at hplace (by simp [written])
  cases p with
  | plain c =>
      obtain ⟨-, rfl⟩ := (List.append_eq_singleton_iff.mp hp.symm).resolve_right fun h => hb h.2
      exact absurd hrest (not_written_at_plain hopens hcut hne hbrace)
  | reference other =>
      rw [Piece.filled] at hp
      split at hp
      · exact absurd hrest (not_written_in_value hopens hcut hp hb)
      · rename_i hother
        obtain rfl := suffix_of_written hbrace (name_of_reference hcut).2 hp hb hrest
        have hmem : other ∈ references s :=
          mem_references.mpr (hcut ▸ List.mem_append_right _ List.mem_cons_self)
        obtain rfl := hapart name hname other hmem ⟨a, hp.symm⟩
        have ha : a = [] := List.self_eq_append_left.mp hp
        exact ⟨hother, ps, qs, hcut, by rw [hbefore, ha, List.append_nil]⟩

/-! ### Expansion -/

/-- Expansion replaces all references of a text at once, if all of them are set and each is found
    only where the text has it.  The order of the references makes no difference: whatever order
    they are taken in, if each is found only where the text has it, the result is the same.  And
    in every order each is found only there, if expanding brings no `${` together and no reference
    of the text ends with another one. -/
theorem expand_eq_substitute {text : String}
    (hset : ∀ name ∈ references text.toList, (env.get? (String.ofList name)).isSome = true) :
    (FindsOwn env text.toList (references text.toList) →
      expand env text = .ok (String.ofList (substitute env text.toList))) ∧
    (∀ names, names.Perm (references text.toList) → FindsOwn env text.toList names →
      expandNames env names text.toList = .ok (substitute env text.toList)) ∧
    (OpensNothing env text.toList → SetApart text.toList →
      ∀ names, names.Perm (references text.toList) → FindsOwn env text.toList names) := by
  have hany : ∀ names, names.Perm (references text.toList) → FindsOwn env text.toList names →
      expandNames env names text.toList = .ok (substitute env text.toList) := by
    intro names hperm hfinds
    rw [expandNames_partly (fun name hname => hset name (hperm.subset hname)) hfinds,
      partly_eq_substitute hperm.symm.subset]
  refine ⟨fun hfinds => ?_, hany, fun hopens hapart names hperm =>
    findsOwn_of_apart hopens hapart hperm.subset⟩
  rw [expand, hany _ (List.Perm.refl _) hfinds]
  rfl

/-- Two variables, one with a dollar sign in its value. -/
def plainEnvironment : Environment := ⟨[("HOME", "/home/ann"), ("USER", "$ann")]⟩

/-- A text that refers to one of them twice. -/
def plainText : String := "$\x7bUSER\x7d: $5 in $\x7bHOME\x7d, $\x7bUSER\x7d"

theorem expand_eq_substitute_plain :
    (∀ name ∈ references plainText.toList,
      (plainEnvironment.get? (String.ofList name)).isSome = true) ∧
    OpensNothing plainEnvironment plainText.toList ∧ SetApart plainText.toList ∧
    expand plainEnvironment plainText = .ok "$ann: $5 in /home/ann, $ann" := by
  have hset : ∀ name ∈ references plainText.toList,
      (plainEnvironment.get? (String.ofList name)).isSome = true := by decide
  have hopens : OpensNothing plainEnvironment plainText.toList := by decide
  have hapart : SetApart plainText.toList := by decide
  obtain ⟨hexpand, -, hfinds⟩ := expand_eq_substitute hset
  refine ⟨hset, hopens, hapart, ?_⟩
  rw [hexpand (hfinds hopens hapart _ (List.Perm.refl _))]
  decide

/-- A variable whose value is a reference to the other one. -/
def nestedEnvironment : Environment := ⟨[("A", "$\x7bB\x7d"), ("B", "x")]⟩

/-- What came out of a value is expanded again if the reference in it comes later in the text, and
    not if it comes earlier; so expansion is not substitution, and the order matters. -/
theorem value_expanded_again :
    (¬ ∀ (env : Environment) (text : String),
      (∀ name ∈ references text.toList, (env.get? (String.ofList name)).isSome = true) →
        expand env text = .ok (String.ofList (substitute env text.toList))) ∧
    expand nestedEnvironment "$\x7bA\x7d $\x7bB\x7d" = .ok "x x" ∧
    expand nestedEnvironment "$\x7bB\x7d $\x7bA\x7d" = .ok "x $\x7bB\x7d" := by
  refine ⟨fun h => ?_, by decide, by decide⟩
  have hsame := h nestedEnvironment "$\x7bA\x7d $\x7bB\x7d" (by decide)
  exact absurd hsame (by decide)

end ConsoleTap.Settings
