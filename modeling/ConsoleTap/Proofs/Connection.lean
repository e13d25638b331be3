import ConsoleTap.Connection
import ConsoleTap.Proofs.Handshake.Reading
import ConsoleTap.Proofs.Url.Repairs

/-!
# Which addresses are refused

An address is judged twice.  Reading it repairs its spelling and leads to a URL, whose scheme
decides whether it is that of a web socket; the handshake judges the text as the user wrote it.
The text of the URL itself is one that the handshake takes, because its parts are encoded
(`takes_text_iff`).  But it is not what the handshake is given, so an address can be refused for
a spelling that was repaired (`refused_for_spelling`).
-/

namespace ConsoleTap

open Handshake Url

variable {c : Char} {s : List Char} {text : String} {u : SocketUrl}

/-! ### The parts of a URL as parts of a URI -/

theorem ascii_of_not_isAlwaysEncoded (h : isAlwaysEncoded c = false) : c.toNat < 0x80 := by
  simp only [isAlwaysEncoded, Bool.or_eq_false_iff, decide_eq_false_iff_not] at h
  omega

theorem isLoose_of_userSet (h : isAlwaysEncoded c = false ∧ c ∉ userSet) : IsLoose c ∧ c ≠ ':' :=
  Text.of_ascii (P := fun c => isAlwaysEncoded c = false ∧ c ∉ userSet → IsLoose c ∧ c ≠ ':')
    (by decide) (ascii_of_not_isAlwaysEncoded h.1) h

theorem isPathChar_of_pathSet (h : isAlwaysEncoded c = false ∧ c ∉ pathSet) :
    isPathChar c = true :=
  Text.of_ascii (P := fun c => isAlwaysEncoded c = false ∧ c ∉ pathSet → isPathChar c = true)
    (by decide) (ascii_of_not_isAlwaysEncoded h.1) h

theorem isQueryChar_of_querySet (h : isAlwaysEncoded c = false ∧ c ∉ querySet) :
    isQueryChar c = true :=
  Text.of_ascii (P := fun c => isAlwaysEncoded c = false ∧ c ∉ querySet → isQueryChar c = true)
    (by decide) (ascii_of_not_isAlwaysEncoded h.1) h

theorem isDelimiter_of_isNameChar (h : IsNameChar c) : isDelimiter c = false :=
  Text.of_ascii (P := fun c => IsNameChar c → isDelimiter c = false) (by decide)
    (of_decide_eq_true h.1) h

theorem isPlain_of_isNameChar (h : IsNameChar c) (hchar : isAuthorityChar c = true) : IsPlain c :=
  Text.of_ascii (P := fun c => IsNameChar c → isAuthorityChar c = true → IsPlain c)
    (by decide) (of_decide_eq_true h.1) h hchar

theorem isPlain_of_isAlphanum (h : c.isAlphanum = true) : IsPlain c :=
  Text.of_ascii (P := fun c => c.isAlphanum = true → IsPlain c) (by decide)
    (Text.ascii_of_isAlphanum h) h

/-! ### Hosts -/

theorem isPlain_address4Text (n : Nat) : ∀ c ∈ (address4Text n).toList, IsPlain c := by
  intro c hc
  rcases mem_address4Text hc with rfl | halnum
  · decide
  · exact isPlain_of_isAlphanum halnum

theorem address4Text_ne_nil (n : Nat) : (address4Text n).toList ≠ [] := by
  rw [address4Text, List.map_cons, Text.joined_cons _ _ (by simp)]
  simp

theorem isLoose_address6Text (numbers : List Nat) :
    ∀ c ∈ (address6Text numbers).toList, IsLoose c ∧ c ≠ '%' := by
  intro c hc
  rcases mem_address6Text hc with rfl | halnum
  · decide
  · have hplain := isPlain_of_isAlphanum halnum
    exact ⟨hplain.1, hplain.2.2⟩

theorem toList_text_address6 (numbers : List Nat) :
    (Url.Host.address6 numbers).text.toList = '[' :: ((address6Text numbers).toList ++ [']']) := by
  simp [Url.Host.text]

theorem isDelimiter_of_host {host : Url.Host} (hhost : host.Proper) :
    ∀ c ∈ host.text.toList, isDelimiter c = false := by
  cases hhost with
  | domain _ hchars => exact fun c hc => isDelimiter_of_isNameChar (hchars c hc)
  | address4 n =>
      exact fun c hc => isDelimiter_of_isAuthorityChar (isPlain_address4Text n c hc).1.1
  | @address6 numbers _ =>
      rw [toList_text_address6, List.forall_mem_cons, List.forall_mem_append]
      refine ⟨by decide, fun c hc => ?_, by simp [isDelimiter]⟩
      exact isDelimiter_of_isAuthorityChar (isLoose_address6Text numbers c hc).1.1

/-- A host that was read is one for the handshake unless it has a character that no authority
    may have. -/
theorem isHost_text {host : Url.Host} (hhost : host.Proper)
    (hchars : ∀ c ∈ host.text.toList, isAuthorityChar c = true) : IsHost host.text.toList := by
  cases hhost with
  | domain hne hname =>
      exact .name (fun h => hne (String.toList_eq_nil_iff.mp h))
        fun c hc => isPlain_of_isNameChar (hname c hc) (hchars c hc)
  | address4 n => exact .name (address4Text_ne_nil n) (isPlain_address4Text n)
  | @address6 numbers hlength =>
      rw [toList_text_address6]
      exact .bracketed (isLoose_address6Text numbers) (count_address6Text_le hlength)

/-! ### Authorities and targets -/

theorem isLoose_of_encoded (h : Encoded userSet s) : (∀ c ∈ s, IsLoose c) ∧ s.count ':' = 0 :=
  ⟨fun c hc => (isLoose_of_userSet (h c hc)).1,
    List.count_eq_zero.mpr fun hcolon => (isLoose_of_userSet (h _ hcolon)).2 rfl⟩

/-- The user and the password are loose characters with one colon between them. -/
theorem credentials_cases (hu : u.Proper) :
    u.credentials.toList = [] ∨ ∃ info, u.credentials.toList = info ++ ['@'] ∧
      (∀ c ∈ info, IsLoose c) ∧ info.count ':' ≤ maxColons := by
  obtain ⟨huser, hnoUser⟩ := isLoose_of_encoded hu.user
  obtain ⟨hpassword, hnoPassword⟩ := isLoose_of_encoded hu.password
  rw [SocketUrl.credentials]
  split
  · exact .inl rfl
  · refine .inr ⟨u.user.toList ++ (if u.password = "" then "" else ":" ++ u.password).toList,
      by simp only [String.toList_append]; rfl, ?_, ?_⟩
    · refine List.forall_mem_append.mpr ⟨huser, ?_⟩
      split
      · nofun
      · rw [String.toList_append]
        exact List.forall_mem_append.mpr ⟨List.forall_mem_singleton.mpr (by decide), hpassword⟩
    · rw [List.count_append, hnoUser]
      split
      · simp
      · rw [String.toList_append, List.count_append, hnoPassword]
        decide

/-- A port is digits behind one colon. -/
theorem portText_cases (u : SocketUrl) :
    (∀ c ∈ u.portText.toList, IsLoose c ∧ c ≠ '%') ∧ u.portText.toList.count ':' ≤ 1 := by
  cases hport : u.port with
  | none => simp [SocketUrl.portText, hport]
  | some n =>
      have hdigits : ∀ c ∈ (toString n).toList, IsPlain c :=
        fun c hc => isPlain_of_isAlphanum (Text.isAlphanum_toString n c hc)
      have htext : u.portText.toList = ':' :: (toString n).toList := by
        rw [SocketUrl.portText, hport, Option.elim_some, String.toList_append]
        rfl
      have hnone : (toString n).toList.count ':' = 0 :=
        List.count_eq_zero.mpr fun h => (hdigits _ h).2.1 rfl
      rw [htext, List.count_cons_self, hnone, List.forall_mem_cons]
      exact ⟨⟨by decide, fun c hc => ⟨(hdigits c hc).1, (hdigits c hc).2.2⟩⟩, Nat.le_refl 1⟩

theorem isDelimiter_of_authority (hu : u.Proper) : ∀ c ∈ u.authority, isDelimiter c = false := by
  have hloose : ∀ c, IsLoose c → isDelimiter c = false :=
    fun c hc => isDelimiter_of_isAuthorityChar hc.1
  rw [SocketUrl.authority, List.forall_mem_append, List.forall_mem_append]
  refine ⟨?_, isDelimiter_of_host hu.host, fun c hc => hloose c ((portText_cases u).1 c hc).1⟩
  rcases credentials_cases hu with hnone | ⟨info, hinfo, hchars, -⟩
  · simp [hnone]
  · rw [hinfo, List.forall_mem_append]
    exact ⟨fun c hc => hloose c (hchars c hc), by simp [isDelimiter]⟩

theorem isDelimiter_of_head_target (hu : u.Proper) :
    ∀ c ∈ u.target.head?, isDelimiter c = true := by
  have hpath : ∀ c ∈ u.path.toList.head?, isDelimiter c = true := by
    intro c hc
    rw [hu.head_path c hc]
    decide
  have hmarked : ∀ {mark : Char} (part : Option (List Char)), isDelimiter mark = true →
      ∀ c ∈ (part.elim [] (mark :: ·)).head?, isDelimiter c = true := by
    intro mark part hmark c hc
    cases part with
    | none => cases hc
    | some part => rwa [← Option.some.inj hc]
  exact Text.forall_head_append hpath (Text.forall_head_append (hmarked _ (by decide))
    (hmarked _ (by decide)))

/-- An authority is good if the host is. -/
theorem checkAuthority_of_host (hu : u.Proper)
    (hchars : ∀ c ∈ u.host.text.toList, isAuthorityChar c = true) :
    Handshake.checkAuthority u.authority = .ok () :=
  checkAuthority_parts (credentials_cases hu) (isHost_text hu.host hchars) (portText_cases u).1
    (portText_cases u).2

theorem checkTarget_of_proper (hu : u.Proper) : checkTarget u.target = .ok () := by
  refine checkTarget_parts (fun c hc => isPathChar_of_pathSet (hu.path c hc)) fun q hq c hc => ?_
  obtain ⟨query, hquery, rfl⟩ := Option.map_eq_some_iff.mp hq
  exact isQueryChar_of_querySet (hu.query query hquery c hc)

theorem isSchemeChar_of_proper (hu : u.Proper) :
    ∀ c ∈ u.scheme.toList, Handshake.isSchemeChar c = true := by
  have hall : ∀ scheme ∈ ["ws", "wss"], scheme.toList.all Handshake.isSchemeChar := by decide
  exact List.all_eq_true.mp (hall u.scheme hu.scheme)

/-- The handshake takes the text of a URL that was read, unless its host has a character that
    no authority may have. -/
theorem takes_text_iff (hu : u.Proper) :
    Takes u.text.toList ↔ ∀ c ∈ u.host.text.toList, isAuthorityChar c = true := by
  rw [SocketUrl.toList_text]
  constructor
  · rintro ⟨uri, hspells, -⟩
    have hchecked : Handshake.checkAuthority u.authority = .ok () := by
      generalize htext : u.scheme.toList ++ ':' :: '/' :: '/' :: (u.authority ++ u.target) = s
        at hspells
      cases hspells with
      | @full scheme authority target hscheme hauthority htarget _ hchecked _ =>
          have hbehind := (scheme_unique (isSchemeChar_of_proper hu) hscheme htext).2
          have hsame : u.authority ++ u.target = authority ++ target := by simpa using hbehind
          rw [← takeWhile_authority (isDelimiter_of_authority hu) (isDelimiter_of_head_target hu),
            hsame, takeWhile_authority hauthority htarget]
          exact hchecked
      | bare hauthority _ =>
          have hslash : '/' ∈ s := by simp [← htext]
          exact absurd (hauthority '/' hslash) (by decide)
    intro c hc
    exact isAuthorityChar_of_checked hchecked c (by simp [SocketUrl.authority, hc])
  · intro hchars
    have hne : u.authority ≠ [] := by
      have hhost := (isHost_text hu.host hchars).ne_nil
      simp [SocketUrl.authority, hhost]
    have hspells := Uri.Spells.full (isSchemeChar_of_proper hu) (isDelimiter_of_authority hu)
      (isDelimiter_of_head_target hu) hne (checkAuthority_of_host hu hchars)
      (checkTarget_of_proper hu)
    refine ⟨⟨some u.scheme.toList, u.authority⟩, hspells, .inr ⟨u.scheme.toList, ?_, rfl⟩⟩
    have hall : ∀ scheme ∈ ["ws", "wss"], scheme.toList ∈ knownSchemes := by decide
    exact hall u.scheme hu.scheme

/-! ### Refusals -/

/-- Whether an address is refused before the network is touched. -/
def Refused (text : String) : Prop := ∃ fault, (Attempt.ofAddress text).result = .error fault

/-- Whether a text is read as an address of a web socket, to go by its scheme. -/
def IsSocket (text : String) : Prop :=
  ∃ address, Address.read text = .ok address ∧ address.scheme ∈ ["ws", "wss"]

theorem isSocket_iff : IsSocket text ↔ ∃ url, Address.read text = .ok (.socket url) := by
  constructor
  · rintro ⟨address, hread, hscheme⟩
    obtain ⟨url, rfl⟩ := (scheme_mem_iff hread).mp hscheme
    exact ⟨url, hread⟩
  · rintro ⟨url, hread⟩
    exact ⟨_, hread, (scheme_mem_iff hread).mpr ⟨url, rfl⟩⟩

theorem refused_of_not_isSocket (h : ¬IsSocket text) : Refused text := by
  rw [isSocket_iff, not_exists] at h
  unfold Refused Attempt.ofAddress
  split
  · exact ⟨_, rfl⟩
  · exact ⟨_, rfl⟩
  · next url hread => exact absurd hread (h url)

theorem refused_iff_of_isSocket (h : IsSocket text) :
    Refused text ↔ ¬(text.utf8ByteSize ≤ maxLength ∧ Takes text.toList) := by
  obtain ⟨url, hread⟩ := isSocket_iff.mp h
  rw [← refusal?_eq_none_iff]
  unfold Refused Attempt.ofAddress
  rw [hread]
  cases refusal? text <;> simp

theorem refused_iff : Refused text ↔
    ¬IsSocket text ∨ ¬(text.utf8ByteSize ≤ maxLength ∧ Takes text.toList) := by
  by_cases hsocket : IsSocket text
  · rw [refused_iff_of_isSocket hsocket]
    exact ⟨.inr, fun h => h.resolve_left (not_not_intro hsocket)⟩
  · exact iff_of_true (refused_of_not_isSocket hsocket) (.inl hsocket)

/-- The text of an address is handed to the handshake as it stands. So an address is refused if
    it is not that of a web socket, and also if its text is too long or not spelled as the handshake
    takes it, although reading it repaired the spelling. The text of the URL that was read would
    not be refused for its spelling: what remains is its length, and characters of the host that a
    URL may have and an authority may not. -/
theorem refused_for_spelling (text : String) :
    (Refused text ↔ ¬IsSocket text ∨ ¬(text.utf8ByteSize ≤ maxLength ∧ Takes text.toList)) ∧
      (Deviates text.toList → Refused text) ∧
      ∀ url, Address.read text = .ok (.socket url) →
        (∀ text', Respelled text.toList text'.toList → Address.read text' = .ok (.socket url)) ∧
        (refusal? url.text = none ↔ url.text.utf8ByteSize ≤ maxLength ∧
          ∀ c ∈ url.host.text.toList, isAuthorityChar c = true) := by
  refine ⟨refused_iff, fun hdeviates => refused_iff.mpr (.inr fun h => hdeviates.not_takes h.2), ?_⟩
  intro url hread
  refine ⟨fun text' hrespelled => read_respelled hrespelled hread, ?_⟩
  rw [refusal?_eq_none_iff, takes_text_iff (proper_of_read hread)]

/-! ### A blank in front -/

/-- The URL of a socket on the user's own machine. -/
def loopback : SocketUrl :=
  { scheme := "ws", host := .address6 [0, 0, 0, 0, 0, 0, 0, 1], port := some 1, path := "/x" }

theorem read_loopback : Address.read "ws://[::1]:1/x" = .ok (.socket loopback) := by
  decide +kernel

theorem respelled_blank : Respelled "ws://[::1]:1/x".toList " ws://[::1]:1/x".toList := by
  have hblank : " ws://[::1]:1/x".toList = [' '] ++ ("ws://[::1]:1/x".toList ++ []) := by decide
  rw [hblank]
  exact .blanks (by simp) nofun

theorem deviates_blank : Deviates " ws://[::1]:1/x".toList :=
  .blank (c := ' ') (by decide) (by decide)

/-- With a blank in front of it an address is read as the same URL, whose text the handshake
    takes, and is refused all the same. -/
theorem refused_for_spelling_blank :
    ¬Refused "ws://[::1]:1/x" ∧ refusal? loopback.text = none ∧
      Address.read " ws://[::1]:1/x" = .ok (.socket loopback) ∧ Refused " ws://[::1]:1/x" := by
  obtain ⟨hrefused, -, hsocket⟩ := refused_for_spelling "ws://[::1]:1/x"
  obtain ⟨hrespelled, htext⟩ := hsocket loopback read_loopback
  have hsame : loopback.text = "ws://[::1]:1/x" := by decide +kernel
  have hchars : loopback.host.text.toList.all isAuthorityChar = true := by decide +kernel
  have htaken : refusal? loopback.text = none :=
    htext.mpr ⟨hsame ▸ by decide, List.all_eq_true.mp hchars⟩
  refine ⟨fun h => ?_, htaken, hrespelled _ respelled_blank,
    (refused_for_spelling " ws://[::1]:1/x").2.1 deviates_blank⟩
  obtain hnone | hspelling := hrefused.mp h
  · exact hnone (isSocket_iff.mpr ⟨loopback, read_loopback⟩)
  · exact hspelling (refusal?_eq_none_iff.mp (hsame ▸ htaken))

/-- So whether an address is refused is not decided by what it is read as. -/
theorem not_refused_iff_not_isSocket : ¬∀ text, Refused text ↔ ¬IsSocket text := by
  intro h
  have hread := read_respelled respelled_blank read_loopback
  have hrefused : Refused " ws://[::1]:1/x" :=
    refused_iff.mpr (.inr fun h => deviates_blank.not_takes h.2)
  exact (h " ws://[::1]:1/x").mp hrefused (isSocket_iff.mpr ⟨loopback, hread⟩)

end ConsoleTap
