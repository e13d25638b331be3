import ConsoleTap.Handshake
import ConsoleTap.Proofs.Results
import ConsoleTap.Proofs.Text.Ascii
import ConsoleTap.Proofs.Text.Front
import Mathlib.Data.List.Basic

/-!
# The parts of a URI

An authority is scanned character by character, and the scan only counts colons, brackets and
percent signs.  So the user, the host and the port can be judged one by one: where each of them
is good, so is the authority that they make up.  The same goes for the path and the query
behind it.
-/

namespace ConsoleTap.Handshake

variable {s authority : List Char} {scan : Scan} {c : Char}

/-! ### Tidy characters -/

theorem ascii_of_isAuthorityChar (h : isAuthorityChar c = true) : c.toNat < 0x80 := by
  rw [isAuthorityChar, Bool.or_eq_true, List.contains_iff_mem] at h
  rcases h with h | h
  · exact Text.ascii_of_isAlphanum h
  · have hascii := List.all_eq_true (p := fun c : Char => decide (c.toNat < 0x80))
      |>.mp (by decide) c h
    exact of_decide_eq_true hascii

theorem ascii_of_isSchemeChar (h : isSchemeChar c = true) : c.toNat < 0x80 := by
  simp only [isSchemeChar, Bool.or_eq_true, decide_eq_true_eq] at h
  rcases h with (((h | rfl) | rfl) | rfl) | rfl
  · exact Text.ascii_of_isAlphanum h
  all_goals decide

/-- The characters that every reader of addresses takes for themselves. -/
def IsTidy (c : Char) : Prop := 0x20 < c.toNat ∧ c.toNat < 0x80 ∧ c ≠ '\\' ∧ c ≠ '#'

instance : DecidablePred IsTidy := fun c =>
  inferInstanceAs (Decidable (0x20 < c.toNat ∧ c.toNat < 0x80 ∧ c ≠ '\\' ∧ c ≠ '#'))

theorem isTidy_of_isAuthorityChar (h : isAuthorityChar c = true) : IsTidy c :=
  Text.of_ascii (P := fun c => isAuthorityChar c = true → IsTidy c) (by decide)
    (ascii_of_isAuthorityChar h) h

theorem isTidy_of_isSchemeChar (h : isSchemeChar c = true) : IsTidy c :=
  Text.of_ascii (P := fun c => isSchemeChar c = true → IsTidy c) (by decide)
    (ascii_of_isSchemeChar h) h

/-! ### The characters of an authority -/

theorem isAuthorityChar_of_take {scan' : Scan} (h : scan.take c = .ok scan') :
    isAuthorityChar c = true := by
  by_contra hc
  rw [Scan.take, if_pos (by simpa using hc)] at h
  cases h

theorem isAuthorityChar_of_foldlM {scan' : Scan} (h : s.foldlM Scan.take scan = .ok scan') :
    ∀ c ∈ s, isAuthorityChar c = true := by
  induction s generalizing scan with
  | nil => nofun
  | cons c rest ih =>
      rw [List.foldlM_cons, bind_eq_ok_iff] at h
      obtain ⟨next, htake, hrest⟩ := h
      exact List.forall_mem_cons.mpr ⟨isAuthorityChar_of_take htake, ih hrest⟩

theorem isAuthorityChar_of_checked (h : checkAuthority authority = .ok ()) :
    ∀ c ∈ authority, isAuthorityChar c = true := by
  obtain ⟨scan, hscan, -⟩ := bind_eq_ok_iff.mp h
  exact isAuthorityChar_of_foldlM hscan

/-- The characters of an authority that neither bracket a host nor end the part before it. -/
def IsLoose (c : Char) : Prop := isAuthorityChar c = true ∧ c ≠ '[' ∧ c ≠ ']' ∧ c ≠ '@'

/-- The characters of an authority that its scan passes over. -/
def IsPlain (c : Char) : Prop := IsLoose c ∧ c ≠ ':' ∧ c ≠ '%'

instance : DecidablePred IsLoose := fun c =>
  inferInstanceAs (Decidable (isAuthorityChar c = true ∧ c ≠ '[' ∧ c ≠ ']' ∧ c ≠ '@'))

instance : DecidablePred IsPlain := fun c =>
  inferInstanceAs (Decidable (IsLoose c ∧ c ≠ ':' ∧ c ≠ '%'))

/-- The state of a scan behind loose characters: their colons are counted, and a percent sign
    among them is remembered. -/
def Scan.behind (scan : Scan) (s : List Char) : Scan :=
  { scan with colons := scan.colons + s.count ':', percent := scan.percent || s.contains '%' }

theorem count_colon_cons (c : Char) (s : List Char) :
    (c :: s).count ':' = [c].count ':' + s.count ':' := by
  rw [← List.singleton_append, List.count_append]

theorem Scan.behind_cons (scan : Scan) (c : Char) (s : List Char) :
    scan.behind (c :: s) = (scan.behind [c]).behind s := by
  simp [Scan.behind, count_colon_cons c s, Nat.add_assoc, Bool.or_assoc]

theorem Scan.take_loose (hc : IsLoose c) (hcolons : scan.colons + [c].count ':' ≤ maxColons) :
    scan.take c = .ok (scan.behind [c]) := by
  obtain ⟨hchar, hopening, hclosing, hat⟩ := hc
  rcases eq_or_ne c ':' with rfl | hcolon
  · have hlt : ¬maxColons ≤ scan.colons := Nat.not_le.mpr hcolons
    simp [Scan.take, Scan.behind, hchar, hlt]
  · rcases eq_or_ne c '%' with rfl | hpercent
    · simp [Scan.take, Scan.behind, hchar]
    · simp [Scan.take, Scan.behind, hchar, hcolon, hopening, hclosing, hat, hpercent, hpercent.symm]

theorem foldlM_take_loose (hs : ∀ c ∈ s, IsLoose c)
    (hcolons : scan.colons + s.count ':' ≤ maxColons) :
    s.foldlM Scan.take scan = .ok (scan.behind s) := by
  induction s generalizing scan with
  | nil => simp [Scan.behind, pure, Except.pure]
  | cons c rest ih =>
      have hcount := count_colon_cons c rest
      have hfirst : scan.take c = .ok (scan.behind [c]) :=
        Scan.take_loose (hs c List.mem_cons_self) (by omega)
      have hrest : (scan.behind [c]).colons + rest.count ':' ≤ maxColons := by
        change scan.colons + [c].count ':' + rest.count ':' ≤ maxColons
        omega
      rw [List.foldlM_cons, hfirst, Scan.behind_cons scan c rest]
      exact ih (fun d hd => hs d (List.mem_cons_of_mem c hd)) hrest

/-- The hosts that an authority may have: a name, or something in brackets. -/
inductive IsHost : List Char → Prop where
  | name {host : List Char} (hne : host ≠ []) (hchars : ∀ c ∈ host, IsPlain c) : IsHost host
  | bracketed {inside : List Char} (hchars : ∀ c ∈ inside, IsLoose c ∧ c ≠ '%')
      (hcolons : inside.count ':' ≤ maxColons) : IsHost ('[' :: (inside ++ [']']))

theorem IsHost.ne_nil (h : IsHost s) : s ≠ [] := by
  cases h with
  | name hne _ => exact hne
  | bracketed _ _ => simp

theorem IsHost.at_not_mem (h : IsHost s) : '@' ∉ s := by
  cases h with
  | name _ hchars => exact fun hat => (hchars _ hat).1.2.2.2 rfl
  | @bracketed inside hchars _ =>
      have hinside : '@' ∉ inside := fun hat => (hchars _ hat).1.2.2.2 rfl
      simp [hinside]

theorem foldlM_take_credentials (hs : ∀ c ∈ s, IsLoose c) (hcolons : s.count ':' ≤ maxColons) :
    (s ++ ['@']).foldlM Scan.take {} = .ok {} := by
  rw [List.foldlM_append, foldlM_take_loose hs (by simpa using hcolons)]
  rfl

theorem foldlM_take_host (h : IsHost s) :
    ∃ scan, s.foldlM Scan.take {} = .ok scan ∧ scan.opened = scan.closed ∧ scan.colons = 0 ∧
      scan.percent = false := by
  cases h with
  | name _ hchars =>
      have hcolons : s.count ':' = 0 := List.count_eq_zero.mpr fun h => (hchars _ h).2.1 rfl
      have hpercent : '%' ∉ s := fun h => (hchars _ h).2.2 rfl
      refine ⟨_, foldlM_take_loose (fun c hc => (hchars c hc).1) (by simp [hcolons]), rfl, ?_, ?_⟩
      · simp [Scan.behind, hcolons]
      · simp [Scan.behind, hpercent]
  | @bracketed inside hchars hcolons =>
      have hpercent : '%' ∉ inside := fun h => (hchars _ h).2 rfl
      have hopening : Scan.take {} '[' = .ok { opened := true } := rfl
      have hinside : inside.foldlM Scan.take { opened := true } =
          .ok (Scan.behind { opened := true } inside) :=
        foldlM_take_loose (fun c hc => (hchars c hc).1) (by simpa using hcolons)
      refine ⟨{ opened := true, closed := true }, ?_, rfl, rfl, rfl⟩
      rw [List.foldlM_cons, hopening]
      change (inside ++ [']']).foldlM Scan.take { opened := true } = _
      rw [List.foldlM_append, hinside]
      rfl

/-- An authority of good parts is good. -/
theorem checkAuthority_parts {credentials host port : List Char}
    (hcredentials : credentials = [] ∨ ∃ info, credentials = info ++ ['@'] ∧
      (∀ c ∈ info, IsLoose c) ∧ info.count ':' ≤ maxColons)
    (hhost : IsHost host) (hport : ∀ c ∈ port, IsLoose c ∧ c ≠ '%') (hcolon : port.count ':' ≤ 1) :
    checkAuthority (credentials ++ (host ++ port)) = .ok () := by
  have hpercent : '%' ∉ port := fun h => (hport _ h).2 rfl
  obtain ⟨scan, hscan, hbrackets, hcolons, hscanned⟩ := foldlM_take_host hhost
  have hlast : (credentials ++ (host ++ port)).getLast? ≠ some '@' := by
    intro hlast
    rw [List.getLast?_append_of_ne_nil _ (by simp [hhost.ne_nil])] at hlast
    rcases List.mem_append.mp (List.mem_of_getLast? hlast) with hat | hat
    · exact hhost.at_not_mem hat
    · exact (hport _ hat).1.2.2.2 rfl
  have hcredentials : credentials.foldlM Scan.take {} = .ok {} := by
    obtain rfl | ⟨info, rfl, hinfo, hcount⟩ := hcredentials
    · rfl
    · exact foldlM_take_credentials hinfo hcount
  have hbehind : port.foldlM Scan.take scan = .ok (scan.behind port) :=
    foldlM_take_loose (fun c hc => (hport c hc).1) (by rw [hcolons, maxColons]; omega)
  have hall : (credentials ++ (host ++ port)).foldlM Scan.take {} = .ok (scan.behind port) := by
    rw [List.foldlM_append, hcredentials]
    change (host ++ port).foldlM Scan.take {} = _
    rw [List.foldlM_append, hscan]
    exact hbehind
  unfold checkAuthority
  rw [hall]
  refine if_neg ?_
  rintro (hopen | hmany | hat | hscan)
  · exact hopen hbrackets
  · simp only [Scan.behind, hcolons] at hmany
    omega
  · exact hlast hat
  · simp [Scan.behind, hscanned, hpercent] at hscan

/-! ### The characters behind an authority -/

/-- Before the fragment there is nothing but visible characters behind a good authority. -/
theorem visible_of_checkTarget (h : checkTarget s = .ok ()) :
    ∀ c ∈ s.takeWhile (· ≠ '#'), 0x20 < c.toNat := by
  simp only [checkTarget, ite_eq_left_iff, reduceCtorEq, imp_false, not_not, Bool.and_eq_true,
    List.all_eq_true] at h
  intro c hc
  generalize s.takeWhile (· ≠ '#') = target at h hc
  obtain ⟨hpath, hquery⟩ := h
  have hcut : target = target.takeWhile (· ≠ '?') ++ target.dropWhile (· ≠ '?') :=
    List.takeWhile_append_dropWhile.symm
  have hmark := List.head?_dropWhile_not (· ≠ '?') target
  generalize target.takeWhile (· ≠ '?') = path at hpath hquery hcut
  generalize target.dropWhile (· ≠ '?') = rest at hcut hmark
  subst hcut
  rcases List.mem_append.mp hc with hc | hc
  · have hchar := hpath c hc
    simp only [isPathChar, Bool.and_eq_true, decide_eq_true_eq] at hchar
    omega
  · cases rest with
    | nil => cases hc
    | cons mark query =>
        rw [← List.drop_drop, List.drop_left] at hquery
        rcases List.mem_cons.mp hc with rfl | hc
        · obtain rfl : c = '?' := by simpa using hmark
          decide
        · have hchar := hquery c hc
          simp only [isQueryChar, Bool.and_eq_true, decide_eq_true_eq] at hchar
          omega

/-- A target of good parts is good. -/
theorem checkTarget_parts {path : List Char} {query fragment : Option (List Char)}
    (hpath : ∀ c ∈ path, isPathChar c = true)
    (hquery : ∀ q ∈ query, ∀ c ∈ q, isQueryChar c = true) :
    checkTarget (path ++ (query.elim [] ('?' :: ·) ++ fragment.elim [] ('#' :: ·))) = .ok () := by
  have hmark : '?' ∉ path := fun h => by simpa [isPathChar, notInPath] using hpath _ h
  have hhash : '#' ∉ path ++ query.elim [] ('?' :: ·) := by
    intro h
    rcases List.mem_append.mp h with h | h
    · simpa [isPathChar, notInPath] using hpath _ h
    · cases query with
      | none => cases h
      | some q =>
        rcases List.mem_cons.mp h with h | h
        · cases h
        · simpa [isQueryChar, notInQuery] using hquery q rfl _ h
  have htarget : (path ++ (query.elim [] ('?' :: ·) ++ fragment.elim [] ('#' :: ·))).takeWhile
      (· ≠ '#') = path ++ query.elim [] ('?' :: ·) := by
    rw [← List.append_assoc]
    exact Text.takeWhile_before hhash (by cases fragment <;> simp)
  have hcut : (path ++ query.elim [] ('?' :: ·)).takeWhile (· ≠ '?') = path :=
    Text.takeWhile_before hmark (by cases query <;> simp)
  unfold checkTarget
  simp only [htarget, hcut]
  refine if_pos ?_
  rw [Bool.and_eq_true, List.all_eq_true, List.all_eq_true]
  refine ⟨hpath, ?_⟩
  rw [← List.drop_drop, List.drop_left]
  cases query with
  | none => nofun
  | some q => exact hquery q rfl

end ConsoleTap.Handshake
