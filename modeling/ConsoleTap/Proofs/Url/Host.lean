import ConsoleTap.Url.Host
import ConsoleTap.Proofs.Results
import ConsoleTap.Proofs.Text.Ascii
import ConsoleTap.Proofs.Text.Lines

/-!
# The characters of a host

A host that was read is written in ASCII, whatever script its user wrote it in: what a label
has beyond ASCII turns into letters and digits (`Punycode.mem_encode`).  A domain name holds no
character that delimits the parts of a URL, and an address in brackets no more than its groups
and their colons.
-/

namespace ConsoleTap.Url

variable {c : Char} {s name : List Char}

/-! ### Punycode -/

namespace Punycode

variable {p : Progress}

/-- Letters and digits, as punycode uses them. -/
def IsDigit (c : Char) : Prop := ∃ d < base, c = digitChar d

theorem threshold_lt (position bias : Nat) : threshold position bias < base := by
  simp only [threshold, maxThreshold, minThreshold, base]
  omega

theorem isDigit_digitsOf {bias fuel position delta : Nat}
    (h : c ∈ digitsOf bias fuel position delta) : IsDigit c := by
  induction fuel generalizing position delta with
  | zero => cases h
  | succ fuel ih =>
      have ht := threshold_lt position bias
      rw [digitsOf] at h
      split at h
      case isTrue hlt => exact ⟨delta, by omega, List.mem_singleton.mp h⟩
      case isFalse =>
        rcases List.mem_cons.mp h with rfl | h
        · have hmod := Nat.mod_lt (delta - threshold position bias)
            (Nat.sub_pos_of_lt ht)
          exact ⟨_, by omega, rfl⟩
        · exact ih h

/-- Passing a character writes digits at most. -/
theorem isDigit_pass {codePoint basic : Nat} {d : Char} (hp : ∀ c ∈ p.written, IsDigit c) :
    ∀ c ∈ (pass codePoint basic p d).written, IsDigit c := by
  rw [pass]
  split
  · exact hp
  · split
    · exact List.forall_mem_append.mpr ⟨hp, fun c hc => isDigit_digitsOf hc⟩
    · exact hp

theorem isDigit_writeCodePoints {basic : Nat} {codePoints : List Nat} {least : Nat}
    (hp : ∀ c ∈ p.written, IsDigit c) :
    ∀ c ∈ (writeCodePoints s basic codePoints least p).written, IsDigit c := by
  induction codePoints generalizing least p with
  | nil => exact hp
  | cons codePoint rest ih =>
      rw [writeCodePoints]
      apply ih
      exact List.foldlRecOn (motive := fun p : Progress => ∀ c ∈ p.written, IsDigit c) s _ hp
        fun p hp d _ => isDigit_pass hp

/-- What is in a punycode: ASCII characters of the text, a hyphen behind them, and digits. -/
theorem mem_encode (h : c ∈ encode s) : c ∈ basicPart s ∨ c = '-' ∨ IsDigit c := by
  rw [encode] at h
  rcases List.mem_append.mp h with h | h
  · rcases List.mem_append.mp h with h | h
    · exact .inl h
    · split at h
      · cases h
      · exact .inr (.inl (List.mem_singleton.mp h))
  · exact .inr (.inr (isDigit_writeCodePoints (by simp) c h))

theorem isAlphanum_of_isDigit (h : IsDigit c) : c.isAlphanum = true := by
  obtain ⟨d, hd, rfl⟩ := h
  revert d
  decide

end Punycode

/-! ### Domain names -/

/-- The characters of a domain name. -/
def IsNameChar (c : Char) : Prop := isAscii c = true ∧ isForbidden c = false

instance : DecidablePred IsNameChar := fun c =>
  inferInstanceAs (Decidable (isAscii c = true ∧ isForbidden c = false))

theorem isNameChar_of_isAlphanum (h : c.isAlphanum = true) : IsNameChar c :=
  Text.of_ascii (P := fun c => c.isAlphanum = true → IsNameChar c) (by decide)
    (Text.ascii_of_isAlphanum h) h

/-- A label is written in characters of its own or in punycode. -/
theorem Label.isNameChar_of_mem {label : Label} (h : Label.read? s = some label)
    (hs : ∀ c ∈ s, isForbidden c = false) : ∀ c ∈ label.ascii, IsNameChar c := by
  rw [Label.read?] at h
  split at h
  case isTrue hascii =>
    have hplain : ∀ c ∈ s, IsNameChar c := fun c hc => ⟨List.all_eq_true.mp hascii c hc, hs c hc⟩
    split at h
    · obtain ⟨plain, -, rfl⟩ := Option.map_eq_some_iff.mp h
      exact hplain
    · cases h
      exact hplain
  case isFalse =>
    split at h
    · cases h
    · split at h
      · cases h
        have hmark : ∀ c ∈ punycodeMark, IsNameChar c := by
          simp [punycodeMark, IsNameChar, isAscii, isForbidden]
        refine List.forall_mem_append.mpr ⟨hmark, fun c hc => ?_⟩
        rcases Punycode.mem_encode hc with hc | rfl | hc
        · obtain ⟨hmem, hlt⟩ := List.mem_filter.mp hc
          exact ⟨hlt, hs c hmem⟩
        · decide
        · exact isNameChar_of_isAlphanum (Punycode.isAlphanum_of_isDigit hc)
      · cases h

theorem isNameChar_of_asciiDomain? (h : asciiDomain? s = some name) :
    ∀ c ∈ name, IsNameChar c := by
  simp only [asciiDomain?, Option.bind_eq_bind, Option.bind_eq_some_iff] at h
  obtain ⟨mapped, -, labels, hlabels, h⟩ := h
  split at h
  case isTrue => cases h
  case isFalse hgood =>
    cases h
    have hforbidden : ∀ c ∈ Text.composed mapped, isForbidden c = false := by
      simp only [Bool.or_eq_true, not_or] at hgood
      simpa using hgood.1
    have hlabel : ∀ label ∈ labels, ∀ c ∈ label.ascii, IsNameChar c := by
      intro label hmem
      obtain ⟨piece, hpiece, hread⟩ := exists_of_mem_mapM hlabels hmem
      refine Label.isNameChar_of_mem hread fun c hc => ?_
      exact hforbidden c (Text.mem_of_mem_splitOn hpiece hc)
    intro c hc
    obtain hc | ⟨piece, hpiece, hc⟩ := Text.mem_intercalate hc
    · rw [List.mem_singleton.mp hc]
      decide
    · obtain ⟨label, hmem, rfl⟩ := List.mem_map.mp hpiece
      exact hlabel label hmem c hc

/-! ### Addresses -/

theorem length_of_address6? {numbers : List Nat} (h : address6? s = some numbers) :
    numbers.length = 8 := by
  rw [address6?] at h
  split at h
  · simpa using (Option.filter_eq_some_iff.mp h).2
  · split at h
    · split at h
      · cases h
        simp only [List.length_append, List.length_replicate]
        omega
      · cases h
    · cases h

/-- The run that an address is written without lies in it. -/
theorem longestRun_le (numbers : List Nat) :
    (longestRun numbers).1 + (longestRun numbers).2 ≤ numbers.length := by
  refine List.foldlRecOn (motive := fun best : Nat × Nat => best.1 + best.2 ≤ numbers.length)
    (List.range numbers.length) _ (Nat.zero_le _) fun best hbest i hi => ?_
  have hrun : zeroRun (numbers.drop i) ≤ (numbers.drop i).length :=
    (List.takeWhile_sublist _).length_le
  rw [List.length_drop] at hrun
  have hi := List.mem_range.mp hi
  dsimp only
  split
  · dsimp only
    omega
  · exact hbest

/-- The characters of an address between its brackets. -/
theorem mem_groupsText {numbers : List Nat} (h : c ∈ (groupsText numbers).toList) :
    c = ':' ∨ c.isAlphanum = true := by
  obtain h | ⟨text, htext, h⟩ := Text.mem_joined h
  · exact .inl (List.mem_singleton.mp h)
  · obtain ⟨n, -, rfl⟩ := List.mem_map.mp htext
    rw [String.toList_ofList] at h
    exact .inr (Text.isAlphanum_toDigits (by decide) (by decide) c h)

theorem count_groupsText (numbers : List Nat) :
    (groupsText numbers).toList.count ':' = numbers.length - 1 := by
  have hglue : ":".toList.count ':' = 1 := rfl
  rw [groupsText, Text.count_joined, hglue, List.length_map, Nat.mul_one]
  intro text htext hcolon
  obtain ⟨n, -, rfl⟩ := List.mem_map.mp htext
  rw [String.toList_ofList] at hcolon
  exact absurd (Text.isAlphanum_toDigits (by decide) (by decide) ':' hcolon) (by decide)

theorem mem_address6Text {numbers : List Nat} (h : c ∈ (address6Text numbers).toList) :
    c = ':' ∨ c.isAlphanum = true := by
  rw [address6Text] at h
  dsimp only at h
  split at h
  · exact mem_groupsText h
  · simp only [String.toList_append, List.mem_append] at h
    obtain (h | h) | h := h
    · exact mem_groupsText h
    · have hgap : ∀ c ∈ "::".toList, c = ':' := by simp
      exact .inl (hgap c h)
    · exact mem_groupsText h

theorem count_address6Text_le {numbers : List Nat} (h : numbers.length = 8) :
    (address6Text numbers).toList.count ':' ≤ 8 := by
  have hrun := longestRun_le numbers
  rw [address6Text]
  dsimp only
  split
  · rw [count_groupsText]
    omega
  · simp only [String.toList_append, List.count_append, count_groupsText, List.length_take,
      List.length_drop]
    have : "::".toList.count ':' = 2 := rfl
    omega

theorem mem_address4Text {n : Nat} (h : c ∈ (address4Text n).toList) :
    c = '.' ∨ c.isAlphanum = true := by
  obtain h | ⟨text, htext, h⟩ := Text.mem_joined h
  · exact .inl (List.mem_singleton.mp h)
  · obtain ⟨i, -, rfl⟩ := List.mem_map.mp htext
    exact .inr (Text.isAlphanum_toString _ c h)

/-! ### Hosts -/

namespace Host

/-- The hosts that reading leads to. -/
inductive Proper : Host → Prop where
  | domain {name : String} (hne : name ≠ "") (hchars : ∀ c ∈ name.toList, IsNameChar c) :
      Proper (.domain name)
  | address4 (n : Nat) : Proper (.address4 n)
  | address6 {numbers : List Nat} (hlength : numbers.length = 8) : Proper (.address6 numbers)

variable {host : Host}

theorem proper_of_readBracketed (h : readBracketed s = .ok host) : host.Proper := by
  rw [readBracketed] at h
  split at h
  · split at h
    · next hnumbers =>
      cases h
      exact .address6 (length_of_address6? hnumbers)
    · cases h
  · cases h

theorem proper_of_readName (h : readName s = .ok host) : host.Proper := by
  rw [readName] at h
  split at h
  · cases h
  · cases h
  · next name hne hname =>
    obtain ⟨plain, -, hdomain⟩ := Option.bind_eq_some_iff.mp hname
    split at h
    · split at h
      · cases h
        exact .address4 _
      · cases h
    · cases h
      refine .domain (fun h => hne (String.ofList_eq_empty_iff.mp h)) ?_
      rw [String.toList_ofList]
      exact isNameChar_of_asciiDomain? hdomain

/-- A host that was read is a domain name or one of the addresses. -/
theorem proper_of_read (h : Host.read s = .ok host) : host.Proper := by
  unfold Host.read at h
  split at h
  · exact proper_of_readBracketed h
  · exact proper_of_readName h

end Host

end ConsoleTap.Url
