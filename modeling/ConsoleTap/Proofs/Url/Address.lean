import ConsoleTap.Url.Address
import ConsoleTap.Proofs.Url.Host

/-!
# The characters of a URL

The parts of a URL that was read are encoded: none has a control character, one beyond ASCII or
one of the set that belongs to the part.  Its text is these parts in their order, with the
characters between them that none of them has.
-/

namespace ConsoleTap.Url

variable {c : Char} {s set : List Char} {text : String} {u : SocketUrl}

/-! ### Encoded text -/

/-- A text without the characters that are encoded in a part of a URL. -/
def Encoded (set s : List Char) : Prop := ∀ c ∈ s, isAlwaysEncoded c = false ∧ c ∉ set

/-- The sets that a part of a URL may have: what encoding writes is in none of them. -/
def Encodes (set : List Char) : Prop := ∀ c ∈ set, c ≠ '%' ∧ c.isAlphanum = false

instance (set : List Char) : Decidable (Encodes set) := List.decidableBAll _ set

theorem not_isAlwaysEncoded_of_isAlphanum (h : c.isAlphanum = true) : isAlwaysEncoded c = false :=
  Text.of_ascii (P := fun c => c.isAlphanum = true → isAlwaysEncoded c = false) (by decide)
    (Text.ascii_of_isAlphanum h) h

theorem Encodes.encodeByte (hset : Encodes set) (b : UInt8) : Encoded set (encodeByte b) := by
  have hdigits : ∀ n < 16, (upperHex n).isAlphanum = true := by decide
  have hdigit : ∀ n < 16, isAlwaysEncoded (upperHex n) = false ∧ upperHex n ∉ set := by
    intro n hn
    refine ⟨not_isAlwaysEncoded_of_isAlphanum (hdigits n hn), fun hmem => ?_⟩
    exact absurd ((hset _ hmem).2.symm.trans (hdigits n hn)) Bool.false_ne_true
  have hb : b.toNat < 256 := b.toNat_lt
  have hpercent : isAlwaysEncoded '%' = false ∧ '%' ∉ set :=
    ⟨by decide, fun hmem => (hset _ hmem).1 rfl⟩
  simp only [Encoded, Url.encodeByte, List.forall_mem_cons]
  exact ⟨hpercent, hdigit _ (by omega), hdigit _ (by omega), by simp⟩

/-- What was encoded holds nothing that has to be. -/
theorem Encodes.encode (hset : Encodes set) (s : List Char) : Encoded set (encode set s) := by
  intro c hc
  obtain ⟨d, -, hd⟩ := List.mem_flatMap.mp hc
  split at hd
  · obtain ⟨b, -, hb⟩ := List.mem_flatMap.mp hd
    exact hset.encodeByte b c hb
  · next hplain =>
    obtain rfl := List.mem_singleton.mp hd
    simpa using hplain

/-! ### Paths -/

/-- The names of a path are those that were followed, and the empty one at the end. -/
theorem mem_follow {above segments : List (List Char)} {segment : List Char}
    (h : segment ∈ follow above segments) :
    segment = [] ∨ segment ∈ above ∨ segment ∈ segments := by
  induction segments generalizing above with
  | nil => exact .inr (.inl (List.mem_reverse.mp h))
  | cons first rest ih =>
      cases rest with
      | nil =>
          simp only [follow] at h
          split_ifs at h <;> rw [List.mem_reverse, List.mem_cons] at h
          · exact h.imp_right fun h => .inl (List.mem_of_mem_tail h)
          · exact h.imp_right .inl
          · exact .inr (h.symm.imp_right fun h => by simp [h])
      | cons next rest =>
          -- what is above changes by one name at most, and that is one of the segments
          have hwiden : segment ∈ next :: rest → segment ∈ first :: next :: rest :=
            List.mem_cons_of_mem first
          simp only [follow] at h
          split_ifs at h <;> rcases ih h with hnil | habove | hmem
          · exact .inl hnil
          · exact .inr (.inl (List.mem_of_mem_tail habove))
          · exact .inr (.inr (hwiden hmem))
          · exact .inl hnil
          · exact .inr (.inl habove)
          · exact .inr (.inr (hwiden hmem))
          · exact .inl hnil
          · exact .inr ((List.mem_cons.mp habove).symm.imp_right fun h => by simp [h])
          · exact .inr (.inr (hwiden hmem))

theorem encoded_pathOf (s : List Char) : Encoded pathSet (pathOf s).toList := by
  have hset : Encodes pathSet := by decide
  intro c hc
  rw [pathOf, String.toList_ofList] at hc
  obtain ⟨segment, hsegment, hc⟩ := List.mem_flatMap.mp hc
  rcases List.mem_cons.mp hc with rfl | hc
  · decide
  · rcases mem_follow hsegment with rfl | hnone | hmem
    · cases hc
    · cases hnone
    · obtain ⟨plain, -, rfl⟩ := List.mem_map.mp hmem
      exact hset.encode plain c hc

theorem head_pathOf (s : List Char) : ∀ c ∈ (pathOf s).toList.head?, c = '/' := by
  intro c hc
  rw [pathOf, String.toList_ofList] at hc
  generalize follow [] _ = names at hc
  cases names with
  | nil => cases hc
  | cons name rest => exact (Option.some.inj hc).symm

/-! ### The text of a URL -/

namespace SocketUrl

def portText (u : SocketUrl) : String := u.port.elim "" fun n => ":" ++ toString n

/-- What stands between the slashes behind the scheme and the path. -/
def authority (u : SocketUrl) : List Char :=
  u.credentials.toList ++ (u.host.text.toList ++ u.portText.toList)

/-- What stands behind the authority. -/
def target (u : SocketUrl) : List Char :=
  u.path.toList ++ ((u.query.map String.toList).elim [] ('?' :: ·) ++
    (u.fragment.map String.toList).elim [] ('#' :: ·))

theorem toList_text (u : SocketUrl) :
    u.text.toList = u.scheme.toList ++ ':' :: '/' :: '/' :: (u.authority ++ u.target) := by
  have hquery : (u.query.elim "" fun q => "?" ++ q).toList =
      (u.query.map String.toList).elim [] ('?' :: ·) := by
    cases u.query <;> simp
  have hfragment : (u.fragment.elim "" fun f => "#" ++ f).toList =
      (u.fragment.map String.toList).elim [] ('#' :: ·) := by
    cases u.fragment <;> simp
  have hslashes : "://".toList = [':', '/', '/'] := rfl
  simp only [text, String.toList_append, hquery, hfragment, hslashes, authority, target, portText,
    List.append_assoc, List.cons_append, List.nil_append]

end SocketUrl

/-! ### URLs -/

/-- The URLs that reading leads to. -/
structure SocketUrl.Proper (u : SocketUrl) : Prop where
  scheme : u.scheme ∈ ["ws", "wss"]
  user : Encoded userSet u.user.toList
  password : Encoded userSet u.password.toList
  host : u.host.Proper
  path : Encoded pathSet u.path.toList
  head_path : ∀ c ∈ u.path.toList.head?, c = '/'
  query : ∀ q ∈ u.query, Encoded querySet q.toList

theorem host_of_readHostAndPort {host : Host} {port : Option Nat}
    (h : readHostAndPort s = .ok (host, port)) : host.Proper := by
  unfold readHostAndPort at h
  rw [throw_if_eq_ok_iff] at h
  obtain ⟨-, h⟩ := h
  obtain ⟨host', hread, h⟩ := bind_eq_ok_iff.mp h
  obtain ⟨port', -, h⟩ := bind_eq_ok_iff.mp h
  cases h
  exact Host.proper_of_read hread

theorem proper_of_readSocket {scheme : String} {defaultPort : Nat}
    (hscheme : scheme ∈ ["ws", "wss"]) (h : readSocket scheme defaultPort s = .ok u) :
    u.Proper := by
  have huser : Encodes userSet := by decide
  have hquery : Encodes querySet := by decide
  obtain ⟨⟨host, port⟩, hread, h⟩ := bind_eq_ok_iff.mp h
  cases h
  refine ⟨hscheme, ?_, ?_, host_of_readHostAndPort hread, encoded_pathOf _, head_pathOf _, ?_⟩
  · rw [String.toList_ofList]
    exact huser.encode _
  · rw [String.toList_ofList]
    exact huser.encode _
  · intro q hq
    dsimp only at hq
    split at hq
    · cases hq
      rw [String.toList_ofList]
      exact hquery.encode _
    · cases hq

theorem lookup_socketSchemes_ne_none_iff (scheme : String) :
    socketSchemes.lookup scheme ≠ none ↔ scheme ∈ ["ws", "wss"] := by
  simp only [socketSchemes, List.lookup_cons, List.lookup_nil]
  split
  · next heq => simp [eq_of_beq heq]
  · next hne =>
    split
    · next heq => simp [eq_of_beq heq]
    · next hne' => simp_all

/-- An address is the URL of a web socket if its scheme is that of one and the rest can be
    read behind the slashes. -/
theorem read_eq_socket_iff : Address.read text = .ok (.socket u) ↔
    ∃ scheme rest port, scheme? (cleaned text.toList) = some (scheme, rest) ∧
      socketSchemes.lookup scheme = some port ∧
      readSocket scheme port (rest.dropWhile Text.isSlash) = .ok u := by
  constructor
  · intro h
    unfold Address.read at h
    split at h
    · cases h
    · next scheme rest hscheme =>
      dsimp only at h
      split at h
      · next port hlookup =>
        obtain ⟨url, hread, heq⟩ := map_eq_ok_iff.mp h
        cases heq
        exact ⟨scheme, rest, port, hscheme, hlookup, hread⟩
      · obtain ⟨url, -, heq⟩ := map_eq_ok_iff.mp h
        cases heq
      · obtain ⟨url, -, heq⟩ := map_eq_ok_iff.mp h
        cases heq
  · rintro ⟨scheme, rest, port, hscheme, hlookup, hread⟩
    unfold Address.read
    simp only [hscheme, hlookup]
    exact map_eq_ok_iff.mpr ⟨u, hread, rfl⟩

/-- The URL of a web socket that was read has proper parts. -/
theorem proper_of_read (h : Address.read text = .ok (.socket u)) : u.Proper := by
  obtain ⟨scheme, rest, port, -, hlookup, hread⟩ := read_eq_socket_iff.mp h
  refine proper_of_readSocket ((lookup_socketSchemes_ne_none_iff scheme).mp ?_) hread
  rw [hlookup]
  nofun

theorem lookup_of_read_other {scheme : String} (h : Address.read text = .ok (.other scheme)) :
    socketSchemes.lookup scheme = none := by
  unfold Address.read at h
  split at h
  · cases h
  · dsimp only at h
    split at h
    · obtain ⟨url, -, heq⟩ := map_eq_ok_iff.mp h
      cases heq
    · next hnone _ =>
      obtain ⟨url, -, heq⟩ := map_eq_ok_iff.mp h
      cases heq
      exact hnone
    · next hnone _ =>
      obtain ⟨-, -, heq⟩ := map_eq_ok_iff.mp h
      cases heq
      exact hnone

/-- Whether an address is the URL of a web socket is decided by its scheme. -/
theorem scheme_mem_iff {address : Address} (h : Address.read text = .ok address) :
    address.scheme ∈ ["ws", "wss"] ↔ ∃ url, address = .socket url := by
  cases address with
  | socket url => exact iff_of_true (proper_of_read h).scheme ⟨url, rfl⟩
  | other scheme =>
      have hnone := lookup_of_read_other h
      refine iff_of_false (fun hmem => ?_) (by simp)
      exact (lookup_socketSchemes_ne_none_iff scheme).mpr hmem hnone

end ConsoleTap.Url
