import ConsoleTap.Proofs.Handshake.Parts

/-!
# What a handshake takes

A handshake reads the text that it is given as a URI and repairs nothing.  A text spells a URI
in full, with a scheme and two slashes in front of the authority, or it is an authority and
nothing else (`Uri.Spells`), and what is read has to say which port is meant.  So no spelling
that would need a repair is taken (`Deviates`).
-/

namespace ConsoleTap.Handshake

variable {s scheme scheme' rest rest' authority target : List Char} {text : String} {u : Uri}
  {c : Char}

/-! ### Spellings -/

/-- Whether a character ends an authority. -/
def isDelimiter (c : Char) : Bool := c = '/' || c = '?' || c = '#'

/-- The texts that spell a URI. -/
inductive Uri.Spells : Uri → List Char → Prop where
  | full {scheme authority target : List Char} (hscheme : ∀ c ∈ scheme, isSchemeChar c = true)
      (hauthority : ∀ c ∈ authority, isDelimiter c = false)
      (htarget : ∀ c ∈ target.head?, isDelimiter c = true) (hne : authority ≠ [])
      (hchecked : checkAuthority authority = .ok ()) (hbehind : checkTarget target = .ok ()) :
      Uri.Spells ⟨some scheme, authority⟩ (scheme ++ ':' :: '/' :: '/' :: (authority ++ target))
  | bare {authority : List Char} (hauthority : ∀ c ∈ authority, isDelimiter c = false)
      (hchecked : checkAuthority authority = .ok ()) : Uri.Spells ⟨none, authority⟩ authority

/-- Whether a URI says which port is meant, by its authority or by its scheme. -/
def Uri.TellsPort (u : Uri) : Prop :=
  u.hasPort = true ∨ ∃ scheme ∈ knownSchemes, u.scheme = some scheme

/-- The texts that the handshake takes if they are not too long. -/
def Takes (s : List Char) : Prop := ∃ u : Uri, u.Spells s ∧ u.TellsPort

/-! ### Where the parts of a text end -/

/-- The part of a text before its first colon can be told from what is behind it. -/
theorem scheme_unique (hscheme : ∀ c ∈ scheme, isSchemeChar c = true)
    (hscheme' : ∀ c ∈ scheme', isSchemeChar c = true)
    (h : scheme ++ ':' :: rest = scheme' ++ ':' :: rest') : scheme = scheme' ∧ rest = rest' := by
  have hcolon : isSchemeChar ':' = false := by decide
  have hunique := Text.front_unique hscheme (Text.stops_at hcolon) hscheme' (Text.stops_at hcolon) h
  exact ⟨hunique.1, (List.cons.inj hunique.2).2⟩

theorem splitScheme_full (hscheme : ∀ c ∈ scheme, isSchemeChar c = true) (rest : List Char) :
    splitScheme (scheme ++ ':' :: '/' :: '/' :: rest) = (some scheme, rest) := by
  have hcolon : isSchemeChar ':' = false := by decide
  rw [splitScheme, Text.dropWhile_front hscheme (Text.stops_at hcolon)]
  simp only [Text.takeWhile_front hscheme (Text.stops_at hcolon)]

/-- A text is split behind a scheme and two slashes, or not at all. -/
theorem splitScheme_cases (s : List Char) :
    (∃ scheme rest, (∀ c ∈ scheme, isSchemeChar c = true) ∧
      s = scheme ++ ':' :: '/' :: '/' :: rest ∧ splitScheme s = (some scheme, rest)) ∨
    splitScheme s = (none, s) := by
  rw [splitScheme]
  split
  case h_1 rest hdrop =>
    refine .inl ⟨s.takeWhile isSchemeChar, rest, fun c hc => List.mem_takeWhile_imp hc, ?_, rfl⟩
    rw [← hdrop, List.takeWhile_append_dropWhile]
  case h_2 => exact .inr rfl

/-- What has no slash has no scheme. -/
theorem splitScheme_of_no_slash (h : '/' ∉ s) : splitScheme s = (none, s) := by
  rcases splitScheme_cases s with ⟨scheme, rest, -, hs, -⟩ | hnone
  · exact absurd (by simp [hs]) h
  · exact hnone

theorem takeWhile_authority (hauthority : ∀ c ∈ authority, isDelimiter c = false)
    (htarget : ∀ c ∈ target.head?, isDelimiter c = true) :
    (authority ++ target).takeWhile (!isDelimiter ·) = authority :=
  Text.takeWhile_front (by simpa using hauthority) (by simpa using htarget)

/-! ### Reading -/

/-- What it takes to read a text whose parts are known. -/
theorem Uri.read_parts {scheme : Option (List Char)}
    (hsplit : splitScheme text.toList = (scheme, authority ++ target))
    (hauthority : ∀ c ∈ authority, isDelimiter c = false)
    (htarget : ∀ c ∈ target.head?, isDelimiter c = true) :
    Uri.read text = .ok u ↔ text.utf8ByteSize ≤ maxLength ∧ checkAuthority authority = .ok () ∧
      (if scheme = none then target = [] else authority ≠ [] ∧ checkTarget target = .ok ()) ∧
      u = ⟨scheme, authority⟩ := by
  have hinside : (fun c => decide (c ≠ '/' ∧ c ≠ '?' ∧ c ≠ '#')) = (!isDelimiter ·) := by
    funext c
    simp [isDelimiter, Bool.and_assoc]
  unfold Uri.read
  rw [hsplit]
  simp only [hinside, takeWhile_authority hauthority htarget, List.drop_left]
  rw [throw_if_eq_ok_iff, Nat.not_lt, check_bind_eq_ok_iff]
  refine and_congr_right fun _ => and_congr_right fun _ => ?_
  cases scheme with
  | none =>
      simp only [Option.isNone_none, reduceIte]
      rw [throw_if_eq_ok_iff]
      simp [pure, Except.pure, eq_comm (a := u)]
  | some scheme =>
      simp only [Option.isNone_some, Bool.false_eq_true, reduceCtorEq, reduceIte]
      rw [throw_if_eq_ok_iff, check_bind_eq_ok_iff]
      simp [pure, Except.pure, eq_comm (a := u), and_assoc]

theorem Uri.spells_of_read (h : Uri.read text = .ok u) :
    text.utf8ByteSize ≤ maxLength ∧ u.Spells text.toList := by
  rcases splitScheme_cases text.toList with ⟨scheme, rest, hscheme, htext, hsplit⟩ | hsplit
  · obtain ⟨authority, target, rfl, hauthority, htarget⟩ := Text.exists_front (!isDelimiter ·) rest
    have hauthority : ∀ c ∈ authority, isDelimiter c = false := by simpa using hauthority
    have htarget : ∀ c ∈ target.head?, isDelimiter c = true := by simpa using htarget
    obtain ⟨hsize, hchecked, ⟨hne, hbehind⟩, rfl⟩ := (read_parts hsplit hauthority htarget).mp h
    rw [htext]
    exact ⟨hsize, .full hscheme hauthority htarget hne hchecked hbehind⟩
  · obtain ⟨authority, target, htext, hauthority, htarget⟩ :=
      Text.exists_front (!isDelimiter ·) text.toList
    have hauthority : ∀ c ∈ authority, isDelimiter c = false := by simpa using hauthority
    have htarget : ∀ c ∈ target.head?, isDelimiter c = true := by simpa using htarget
    have hparts : splitScheme text.toList = (none, authority ++ target) := by rw [hsplit, htext]
    obtain ⟨hsize, hchecked, hnone, rfl⟩ := (read_parts hparts hauthority htarget).mp h
    rw [if_pos rfl] at hnone
    rw [htext, hnone, List.append_nil]
    exact ⟨hsize, .bare hauthority hchecked⟩

theorem Uri.read_of_spells (hsize : text.utf8ByteSize ≤ maxLength) (h : u.Spells text.toList) :
    Uri.read text = .ok u := by
  generalize htext : text.toList = s at h
  cases h with
  | @full scheme authority target hscheme hauthority htarget hne hchecked hbehind =>
      have hparts : splitScheme text.toList = (some scheme, authority ++ target) := by
        rw [htext, splitScheme_full hscheme]
      exact (read_parts hparts hauthority htarget).mpr ⟨hsize, hchecked, ⟨hne, hbehind⟩, rfl⟩
  | bare hauthority hchecked =>
      have hslash : '/' ∉ s := fun h => absurd (hauthority '/' h) (by decide)
      have hparts : splitScheme text.toList = (none, s ++ []) := by
        rw [htext, splitScheme_of_no_slash hslash, List.append_nil]
      exact (read_parts hparts hauthority nofun).mpr ⟨hsize, hchecked, by simp, rfl⟩

/-- A text is read as the URI that it spells, unless it is too long. -/
theorem Uri.read_eq_ok_iff :
    Uri.read text = .ok u ↔ text.utf8ByteSize ≤ maxLength ∧ u.Spells text.toList :=
  ⟨spells_of_read, fun h => read_of_spells h.1 h.2⟩

theorem Uri.tellsPort_iff :
    u.TellsPort ↔ (u.hasPort || u.scheme.any knownSchemes.contains) = true := by
  rw [TellsPort, Bool.or_eq_true]
  cases u.scheme <;> simp

theorem refusal?_of_read (h : Uri.read text = .ok u) : refusal? text = none ↔ u.TellsPort := by
  simp only [Uri.tellsPort_iff, refusal?, h, ite_eq_left_iff, reduceCtorEq, imp_false, not_not]

/-- The handshake refuses what is too long or not of its form, and nothing else. -/
theorem refusal?_eq_none_iff :
    refusal? text = none ↔ text.utf8ByteSize ≤ maxLength ∧ Takes text.toList := by
  constructor
  · intro h
    cases hread : Uri.read text with
    | error cause => simp [refusal?, hread] at h
    | ok u =>
        have hspells := Uri.read_eq_ok_iff.mp hread
        exact ⟨hspells.1, u, hspells.2, (refusal?_of_read hread).mp h⟩
  · rintro ⟨hsize, u, hspells, hport⟩
    exact (refusal?_of_read (Uri.read_eq_ok_iff.mpr ⟨hsize, hspells⟩)).mpr hport

/-! ### What is not repaired -/

/-- Where an authority may begin in a text. -/
def IsFront (front : List Char) : Prop :=
  front = [] ∨ ∃ scheme, (∀ c ∈ scheme, isSchemeChar c = true) ∧ front = scheme ++ [':', '/', '/']

/-- Spellings that an address repairs. -/
inductive Deviates (s : List Char) : Prop where
  /-- There is white space or a control character before the fragment. -/
  | blank {c : Char} (hc : c ∈ s.takeWhile (· ≠ '#')) (hblank : c.toNat ≤ 0x20)
  /-- Behind the scheme there are not just two slashes. Where there are none, the text may still
      be taken for an authority if it ends with a port. -/
  | slashes {scheme slashes rest : List Char} (hs : s = scheme ++ ':' :: (slashes ++ rest))
      (hscheme : ∀ c ∈ scheme, isSchemeChar c = true)
      (hslashes : ∀ c ∈ slashes, Text.isSlash c = true)
      (hrest : ∀ c ∈ rest.head?, Text.isSlash c = false) (htwo : slashes ≠ ['/', '/'])
      (hport : slashes = [] → Uri.hasPort ⟨none, s⟩ = false)
  /-- There is a backslash before the path, or a character beyond ASCII. -/
  | script {front rest : List Char} {c : Char} (hs : s = front ++ rest) (hfront : IsFront front)
      (hc : c ∈ rest.takeWhile (!isDelimiter ·)) (hscript : c = '\\' ∨ 0x80 ≤ c.toNat)

theorem isDelimiter_of_isSchemeChar (h : isSchemeChar c = true) : isDelimiter c = false :=
  Text.of_ascii (P := fun c => isSchemeChar c = true → isDelimiter c = false) (by decide)
    (ascii_of_isSchemeChar h) h

theorem isDelimiter_of_isAuthorityChar (h : isAuthorityChar c = true) : isDelimiter c = false :=
  Text.of_ascii (P := fun c => isAuthorityChar c = true → isDelimiter c = false) (by decide)
    (ascii_of_isAuthorityChar h) h

theorem isTidy_of_checked (h : checkAuthority authority = .ok ()) : ∀ c ∈ authority, IsTidy c :=
  fun c hc => isTidy_of_isAuthorityChar (isAuthorityChar_of_checked h c hc)

/-- A text that spells a URI has no blanks before its fragment. -/
theorem Uri.Spells.visible (h : u.Spells s) : ∀ c ∈ s.takeWhile (· ≠ '#'), 0x20 < c.toNat := by
  intro c hc
  cases h with
  | @full scheme authority target hscheme _ _ _ hchecked hbehind =>
      have hsplit : scheme ++ ':' :: '/' :: '/' :: (authority ++ target) =
          (scheme ++ [':', '/', '/'] ++ authority) ++ target := by simp
      have htidy : ∀ c ∈ scheme ++ [':', '/', '/'] ++ authority, IsTidy c := by
        rw [List.forall_mem_append, List.forall_mem_append]
        exact ⟨⟨fun c hc => isTidy_of_isSchemeChar (hscheme c hc), by simp [IsTidy]⟩,
          isTidy_of_checked hchecked⟩
      rw [hsplit, List.takeWhile_append_of_pos fun c hc => decide_eq_true (htidy c hc).2.2.2] at hc
      rcases List.mem_append.mp hc with hc | hc
      · exact (htidy c hc).1
      · exact visible_of_checkTarget hbehind c hc
  | bare _ hchecked => exact (isTidy_of_checked hchecked c (List.takeWhile_subset _ hc)).1

/-- Wherever an authority may begin in it, a text that spells a URI is tidy up to the path. -/
theorem Uri.Spells.tidy {front : List Char} (h : u.Spells (front ++ rest))
    (hfront : IsFront front) : ∀ c ∈ rest.takeWhile (!isDelimiter ·), IsTidy c := by
  generalize hs : front ++ rest = s at h
  cases h with
  | @full scheme authority target hscheme hauthority htarget _ hchecked _ =>
      rcases hfront with rfl | ⟨scheme', hscheme', rfl⟩
      · -- at the very front it would be the scheme
        have hnot : ∀ c ∈ scheme ++ [':'], isDelimiter c = false :=
          List.forall_mem_append.mpr
            ⟨fun c hc => isDelimiter_of_isSchemeChar (hscheme c hc), by simp [isDelimiter]⟩
        have hsplit : rest = (scheme ++ [':']) ++ '/' :: '/' :: (authority ++ target) := by
          simpa using hs
        rw [hsplit, takeWhile_authority hnot (by simp [isDelimiter])]
        exact List.forall_mem_append.mpr
          ⟨fun c hc => isTidy_of_isSchemeChar (hscheme c hc), by simp [IsTidy]⟩
      · rw [List.append_assoc] at hs
        obtain ⟨rfl, hrest⟩ := scheme_unique hscheme' hscheme hs
        obtain rfl : rest = authority ++ target := by simpa using hrest
        rw [takeWhile_authority hauthority htarget]
        exact isTidy_of_checked hchecked
  | bare hauthority hchecked =>
      rcases hfront with rfl | ⟨scheme, -, rfl⟩
      · obtain rfl : rest = s := hs
        exact fun c hc => isTidy_of_checked hchecked c (List.takeWhile_subset _ hc)
      · have hslash : '/' ∈ s := by simp [← hs]
        exact absurd (hauthority '/' hslash) (by decide)

theorem isSlash_eq_false (htidy : IsTidy c) (h : isDelimiter c = false) :
    Text.isSlash c = false := by
  have hslash : c ≠ '/' := by
    rintro rfl
    exact absurd h (by decide)
  simp [Text.isSlash, hslash, htidy.2.2.1]

/-- What an address repairs, the handshake does not take. -/
theorem Deviates.not_takes (h : Deviates s) : ¬Takes s := by
  rintro ⟨u, hspells, hport⟩
  cases h with
  | blank hc hblank => exact absurd (hspells.visible _ hc) (Nat.not_lt.mpr hblank)
  | @slashes scheme slashes rest hs hscheme hslashes hrest htwo hbare =>
      cases hspells with
      | @full scheme' authority target hscheme' hauthority _ hne hchecked _ =>
          have hplain : ∀ c ∈ (authority ++ target).head?, Text.isSlash c = false := by
            intro c hc
            rw [List.head?_append_of_ne_nil _ hne] at hc
            have hmem : c ∈ authority := List.mem_of_mem_head? hc
            exact isSlash_eq_false (isTidy_of_checked hchecked c hmem) (hauthority c hmem)
          have hbehind := (scheme_unique hscheme hscheme' hs.symm).2
          exact htwo (Text.front_unique hslashes hrest (by simp [Text.isSlash]) hplain hbehind).1
      | bare hauthority hchecked =>
          have hnone : slashes = [] := by
            rw [List.eq_nil_iff_forall_not_mem]
            intro c hc
            have hmem : c ∈ s := by simp [hs, hc]
            have hnot := isSlash_eq_false (isTidy_of_checked hchecked c hmem) (hauthority c hmem)
            exact absurd ((hslashes c hc).symm.trans hnot) (by decide)
          rcases hport with htells | ⟨scheme, -, hscheme⟩
          · rw [hbare hnone] at htells
            cases htells
          · cases hscheme
  | script hs hfront hc hscript =>
      have htidy := (hs ▸ hspells).tidy hfront _ hc
      rcases hscript with rfl | hbeyond
      · exact htidy.2.2.1 rfl
      · exact absurd htidy.2.1 (Nat.not_lt.mpr hbeyond)

end ConsoleTap.Handshake
