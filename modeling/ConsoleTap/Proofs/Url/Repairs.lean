import ConsoleTap.Proofs.Text.Front
import ConsoleTap.Proofs.Url.Address
import Mathlib.Data.List.DropRight

/-!
# What reading repairs

White space around an address is dropped before it is read, and behind the scheme of a web
socket any number of slashes of either kind does for two.  So an address has many spellings
that are read alike (`Respelled`).
-/

namespace ConsoleTap.Url

variable {s before behind : List Char} {text text' : String} {u : SocketUrl}

/-- The spellings of an address that are read like one of it. -/
inductive Respelled (s : List Char) : List Char → Prop where
  | blanks {before behind : List Char} (hbefore : ∀ c ∈ before, c.toNat ≤ 0x20)
      (hbehind : ∀ c ∈ behind, c.toNat ≤ 0x20) : Respelled s (before ++ (s ++ behind))
  | slashes {scheme slashes rest : List Char} (hs : s = scheme ++ ':' :: '/' :: '/' :: rest)
      (hscheme : ∀ c ∈ scheme, isSchemeChar c = true)
      (hslashes : ∀ c ∈ slashes, Text.isSlash c = true) :
      Respelled s (scheme ++ ':' :: (slashes ++ rest))

/-! ### Blanks at the ends -/

theorem rdropWhile_append_of_pos {p : Char → Bool} (h : ∀ c ∈ behind, p c = true) :
    (s ++ behind).rdropWhile p = s.rdropWhile p := by
  rw [List.rdropWhile, List.rdropWhile, List.reverse_append,
    List.dropWhile_append_of_pos (by simpa using h)]

theorem dropWhile_append_of_neg {p : Char → Bool} (hne : before ≠ [])
    (h : ∀ c ∈ before, ¬p c = true) (s : List Char) : (before ++ s).dropWhile p = before ++ s := by
  cases before with
  | nil => exact absurd rfl hne
  | cons c rest => exact List.dropWhile_cons_of_neg (h c List.mem_cons_self)

/-- What is kept of the characters inside a text. -/
def isKept (c : Char) : Bool := decide (c ≠ '\t' ∧ c ≠ '\n' ∧ c ≠ '\r')

def isBlank (c : Char) : Bool := decide (c.toNat ≤ 0x20)

theorem cleaned_eq (s : List Char) :
    cleaned s = ((s.dropWhile isBlank).rdropWhile isBlank).filter isKept := rfl

theorem cleaned_blanks (hbefore : ∀ c ∈ before, c.toNat ≤ 0x20)
    (hbehind : ∀ c ∈ behind, c.toNat ≤ 0x20) : cleaned (before ++ (s ++ behind)) = cleaned s := by
  have hblank : ∀ {t : List Char}, (∀ c ∈ t, c.toNat ≤ 0x20) → ∀ c ∈ t, isBlank c = true :=
    fun h c hc => decide_eq_true (h c hc)
  rw [cleaned_eq, cleaned_eq, List.dropWhile_append_of_pos (hblank hbefore), List.dropWhile_append]
  split
  · next hnone =>
    rw [List.isEmpty_iff.mp hnone, List.dropWhile_eq_nil_iff.mpr (hblank hbehind)]
  · rw [rdropWhile_append_of_pos (hblank hbehind)]

/-- Nothing is dropped of visible characters at the front. -/
theorem cleaned_visible (hne : before ≠ []) (hbefore : ∀ c ∈ before, 0x20 < c.toNat) :
    cleaned (before ++ s) = before ++ (s.rdropWhile isBlank).filter isKept := by
  have hblank : ∀ c ∈ before, ¬isBlank c = true := by
    intro c hc
    simpa [isBlank] using hbefore c hc
  have hkept : ∀ c ∈ before, isKept c = true := by
    intro c hc
    have hvisible := hbefore c hc
    simp only [isKept, decide_eq_true_eq]
    refine ⟨?_, ?_, ?_⟩ <;> rintro rfl <;> exact absurd hvisible (by decide)
  have hstart := dropWhile_append_of_neg hne hblank s
  have hkeep : before.reverse.dropWhile isBlank = before.reverse := by
    have hreverse : ∀ c ∈ before.reverse, ¬isBlank c = true := by simpa using hblank
    simpa using dropWhile_append_of_neg (by simpa using hne) hreverse []
  have hend : (before ++ s).rdropWhile isBlank = before ++ s.rdropWhile isBlank := by
    rw [List.rdropWhile, List.rdropWhile, List.reverse_append, List.dropWhile_append, hkeep]
    split
    · next hnone => simp [List.isEmpty_iff.mp hnone]
    · rw [List.reverse_append, List.reverse_reverse]
  rw [cleaned_eq, hstart, hend, List.filter_append, List.filter_eq_self.mpr hkept]

/-! ### Slashes behind the scheme -/

theorem visible_of_isSchemeChar {c : Char} (h : isSchemeChar c = true) : 0x20 < c.toNat := by
  simp only [isSchemeChar, Bool.or_eq_true, decide_eq_true_eq] at h
  rcases h with ((h | rfl) | rfl) | rfl
  · exact Text.of_ascii (P := fun c => c.isAlphanum = true → 0x20 < c.toNat) (by decide)
      (Text.ascii_of_isAlphanum h) h
  all_goals decide

theorem visible_of_isSlash {c : Char} (h : Text.isSlash c = true) : 0x20 < c.toNat := by
  simp only [Text.isSlash, Bool.or_eq_true, decide_eq_true_eq] at h
  rcases h with rfl | rfl <;> decide

theorem scheme?_append {scheme : List Char} (hscheme : ∀ c ∈ scheme, isSchemeChar c = true)
    (rest : List Char) : scheme? (scheme ++ ':' :: rest) =
      if scheme.head?.any Char.isAlpha then
        some (String.ofList (scheme.map Char.toLower), rest)
      else none := by
  have hcolon : ∀ c ∈ (':' :: rest).head?, isSchemeChar c = false := Text.stops_at (by decide)
  have hdrop := Text.dropWhile_front hscheme hcolon
  have htake := Text.takeWhile_front hscheme hcolon
  cases scheme with
  | nil => rfl
  | cons c letters =>
      rw [List.cons_append] at hdrop htake
      rw [List.cons_append, scheme?, hdrop, htake]
      cases hletter : c.isAlpha <;> simp [hletter]

theorem cleaned_slashes {scheme slashes : List Char}
    (hscheme : ∀ c ∈ scheme, isSchemeChar c = true)
    (hslashes : ∀ c ∈ slashes, Text.isSlash c = true) (rest : List Char) : cleaned (scheme ++ ':' :: (slashes ++ rest)) =
      scheme ++ ':' :: (slashes ++ (rest.rdropWhile isBlank).filter isKept) := by
  have hsplit : ∀ t, scheme ++ ':' :: (slashes ++ t) = (scheme ++ ':' :: slashes) ++ t := by simp
  have hvisible : ∀ c ∈ scheme ++ ':' :: slashes, 0x20 < c.toNat := by
    refine List.forall_mem_append.mpr ⟨fun c hc => visible_of_isSchemeChar (hscheme c hc),
      List.forall_mem_cons.mpr ⟨by decide, fun c hc => ?_⟩⟩
    exact visible_of_isSlash (hslashes c hc)
  rw [hsplit, hsplit, cleaned_visible (by simp) hvisible]

/-- What is respelled is still read as the same URL. -/
theorem read_respelled (h : Respelled text.toList text'.toList)
    (hread : Address.read text = .ok (.socket u)) : Address.read text' = .ok (.socket u) := by
  rw [read_eq_socket_iff] at hread ⊢
  generalize text'.toList = t at h
  cases h with
  | blanks hbefore hbehind =>
      rw [cleaned_blanks hbefore hbehind]
      exact hread
  | @slashes scheme slashes rest hs hscheme hslashes =>
      obtain ⟨name, behind, port, hname, hlookup, hsocket⟩ := hread
      have hread : ∀ slashes : List Char, (∀ c ∈ slashes, Text.isSlash c = true) →
          scheme? (cleaned (scheme ++ ':' :: (slashes ++ rest))) =
            if scheme.head?.any Char.isAlpha then
              some (String.ofList (scheme.map Char.toLower),
                slashes ++ (rest.rdropWhile isBlank).filter isKept)
            else none := by
        intro slashes hslashes
        rw [cleaned_slashes hscheme hslashes, scheme?_append hscheme]
      have htwo := hread ['/', '/'] (by simp [Text.isSlash])
      simp only [List.cons_append, List.nil_append] at htwo
      rw [hs, htwo] at hname
      split at hname
      case isFalse => cases hname
      case isTrue hletter =>
        cases hname
        refine ⟨_, _, port, (hread slashes hslashes).trans (if_pos hletter), hlookup, ?_⟩
        rw [List.dropWhile_append_of_pos hslashes]
        exact hsocket

end ConsoleTap.Url
