import ConsoleTap.Proofs.Toml.Distinct
import ConsoleTap.Settings.Source

/-!
# The limits that a document gives

What a document says of a limit can be told without reading it setting by setting: it has a
section for the session, which is a table or an array, and in this section the limit has a
member or has none.  Settings that were read have each limit as the document gives it, and
where it gives none the default; what it says of the other limits makes no difference.  There
is never a choice between two members, because the names of a table are distinct.
-/

namespace ConsoleTap

/-- A limit of the session. -/
inductive Limit where
  | connectTimeout
  | fetchTimeout
  | depth
deriving DecidableEq, Repr

namespace Limit

/-- What the limit is called in a document. -/
def setting : Limit → String
  | connectTimeout => "connect_timeout_secs"
  | fetchTimeout => "fetch_timeout_ms"
  | depth => "max_depth"

/-- The limit where nobody gives one. -/
def default : Limit → Nat
  | connectTimeout => 10
  | fetchTimeout => 2000
  | depth => 2

/-- The limit in the settings of a session. -/
def of (s : SessionSettings) : Limit → Nat
  | connectTimeout => s.connectTimeoutSecs
  | fetchTimeout => s.fetchTimeoutMs
  | depth => s.maxDepth

end Limit

namespace Settings

open ConsoleTap.Toml

variable {S T : Type} {doc v : Value}

/-! ### What a document says -/

/-- The members of a section whose settings have those names in order: those of a table, or the
    items of an array with the names of their places. -/
def members (names : List String) : Value → List (String × Value)
  | .table entries => entries
  | .array items => names.zip items
  | _ => []

def sectionNames : List String := ["session", "logging"]

def sessionNames : List String := ["connect_timeout_secs", "fetch_timeout_ms", "max_depth"]

/-- The document gives the limit that value. -/
def Says (doc : Value) (limit : Limit) (v : Value) : Prop :=
  ∃ session, ("session", session) ∈ members sectionNames doc ∧
    (limit.setting, v) ∈ members sessionNames session

theorem fst_zip_sublist {α β : Type} (as : List α) (bs : List β) :
    ((as.zip bs).map Prod.fst).Sublist as := by
  induction as generalizing bs with
  | nil => exact List.Sublist.refl _
  | cons a as ih =>
      cases bs with
      | nil => exact List.nil_sublist _
      | cons b bs => exact (ih bs).cons_cons a

theorem nodup_members {names : List String} (hnames : names.Nodup) (h : v.Distinct) :
    ((members names v).map Prod.fst).Nodup := by
  cases h with
  | table hnodup _ => exact hnodup
  | array h => exact hnames.sublist (fst_zip_sublist _ _)
  | _ => exact List.nodup_nil

theorem distinct_of_mem_members {names : List String} {m : String × Value} (h : v.Distinct)
    (hmem : m ∈ members names v) : m.2.Distinct := by
  cases h with
  | table _ h => exact h m hmem
  | array h => exact h m.2 (List.of_mem_zip hmem).2
  | _ => exact absurd hmem List.not_mem_nil

/-! ### Reading a section, member by member -/

/-- Stores a member in the place of its name, if the name is known. -/
def storeMember (entries : List (Entry S)) (s : S) (m : String × Value) : Option S :=
  match entries.find? (fun e => e.name = m.1) with
  | some e => e.store m.2 s
  | none => some s

/-- The names of the entries tell them apart. -/
def Known (entries : List (Entry S)) : Prop :=
  ∀ e ∈ entries, entries.find? (fun other => other.name = e.name) = some e

variable {entries : List (Entry S)} {s s' defaults : S} {name : String}

theorem foldlM_zip {listed : List (Entry S)} (hknown : ∀ e ∈ listed, e ∈ entries)
    (hentries : Known entries) (items : List Value) :
    (listed.zip items).foldlM (fun s p => p.1.store p.2 s) s =
      ((listed.map Entry.name).zip items).foldlM (storeMember entries) s := by
  induction listed generalizing items s with
  | nil => rfl
  | cons e rest ih =>
      cases items with
      | nil => rfl
      | cons v items =>
          obtain ⟨he, hrest⟩ := List.forall_mem_cons.mp hknown
          have hstore : storeMember entries s (e.name, v) = e.store v s := by
            rw [storeMember, hentries e he]
          simp only [List.map_cons, List.zip_cons_cons, List.foldlM_cons, hstore]
          congr 1
          funext s
          exact ih hrest items

/-- A section is read member by member, be it a table or an array. -/
theorem foldlM_members (hentries : Known entries) (h : readSection entries defaults v = some s) :
    (members (entries.map Entry.name) v).foldlM (storeMember entries) defaults = some s := by
  cases v with
  | table ms => exact h
  | array items =>
      rw [readSection, foldlM_zip (fun e he => he) hentries] at h
      exact h
  | moment written => exact h
  | _ => cases h

/-- The entry of that name, and no other one, settles a part of the settings: from the value of its
    member, as `Holds` says. -/
structure Settles (entries : List (Entry S)) (name : String) (part : S → T)
    (Holds : Value → T → Prop) : Prop where
  exists_entry : ∃ e ∈ entries, e.name = name
  holds : ∀ e ∈ entries, e.name = name → ∀ v s s', e.store v s = some s' → Holds v (part s')
  keeps : ∀ e ∈ entries, e.name ≠ name → ∀ v s s', e.store v s = some s' → part s' = part s

variable {part : S → T} {Holds : Value → T → Prop} {ms : List (String × Value)}

theorem Settles.holds_of_storeMember (hsettles : Settles entries name part Holds)
    (h : storeMember entries s (name, v) = some s') : Holds v (part s') := by
  rw [storeMember] at h
  split at h
  · rename_i e hfind
    exact hsettles.holds e (List.mem_of_find?_eq_some hfind)
      (by simpa using List.find?_some hfind) v s s' h
  · rename_i hfind
    obtain ⟨e, he, hname⟩ := hsettles.exists_entry
    exact absurd (decide_eq_true hname) (List.find?_eq_none.mp hfind e he)

theorem Settles.keeps_of_storeMember (hsettles : Settles entries name part Holds)
    {m : String × Value} (hne : m.1 ≠ name) (h : storeMember entries s m = some s') :
    part s' = part s := by
  rw [storeMember] at h
  split at h
  · rename_i e hfind
    have hname : e.name = m.1 := by simpa using List.find?_some hfind
    exact hsettles.keeps e (List.mem_of_find?_eq_some hfind) (hname ▸ hne) m.2 s s' h
  · cases h
    rfl

/-- By induction on the members: the one of that name is met once, and the others leave its part
    alone. -/
theorem Settles.foldlM (hsettles : Settles entries name part Holds)
    (hnodup : (ms.map Prod.fst).Nodup) (h : ms.foldlM (storeMember entries) s = some s') :
    (∀ v, (name, v) ∈ ms → Holds v (part s')) ∧ (name ∉ ms.map Prod.fst → part s' = part s) := by
  induction ms generalizing s with
  | nil =>
      cases h
      exact ⟨fun _ hmem => absurd hmem List.not_mem_nil, fun _ => rfl⟩
  | cons m ms ih =>
      rw [List.foldlM_cons] at h
      obtain ⟨next, hnext, h⟩ := Option.bind_eq_some_iff.mp h
      rw [List.map_cons, List.nodup_cons] at hnodup
      obtain ⟨hfound, hkept⟩ := ih hnodup.2 h
      obtain ⟨n, u⟩ := m
      by_cases hname : n = name
      · subst hname
        constructor
        · intro v hmem
          rcases List.mem_cons.mp hmem with heq | hmem
          · cases heq
            rw [hkept hnodup.1]
            exact hsettles.holds_of_storeMember hnext
          · exact absurd (List.mem_map_of_mem hmem) hnodup.1
        · intro hnone
          exact absurd List.mem_cons_self hnone
      · constructor
        · intro v hmem
          rcases List.mem_cons.mp hmem with heq | hmem
          · cases heq
            exact absurd rfl hname
          · exact hfound v hmem
        · intro hnone
          rw [List.map_cons, List.mem_cons, not_or] at hnone
          rw [hkept hnone.2]
          exact hsettles.keeps_of_storeMember hname hnext

theorem Settles.readSection (hsettles : Settles entries name part Holds) (hentries : Known entries)
    (hnames : (entries.map Entry.name).Nodup) (hv : v.Distinct)
    (h : readSection entries defaults v = some s) :
    (∀ u, (name, u) ∈ members (entries.map Entry.name) v → Holds u (part s)) ∧
      ((∀ u, (name, u) ∉ members (entries.map Entry.name) v) → part s = part defaults) := by
  obtain ⟨hfound, hkept⟩ :=
    hsettles.foldlM (nodup_members hnames hv) (foldlM_members hentries h)
  refine ⟨hfound, fun hnone => hkept ?_⟩
  intro hmem
  obtain ⟨m, hm, rfl⟩ := List.mem_map.mp hmem
  exact hnone m.2 hm

/-! ### The settings of a document -/

theorem known_sessionEntries : Known sessionEntries := by
  simp [Known, sessionEntries]

theorem known_entries : Known Settings.entries := by
  simp [Known, Settings.entries]

theorem eq_integer_of_readCount {limit n : Nat} (h : readCount limit v = some n) :
    v = .integer n := by
  unfold readCount at h
  split at h
  · split at h
    · rename_i hrange
      cases h
      rw [Int.toNat_of_nonneg hrange.1]
    · cases h
  · cases h

/-- Each limit is settled by the entry of its name alone. -/
theorem settles_limit (limit : Limit) :
    Settles sessionEntries limit.setting limit.of fun v n => v = .integer n := by
  constructor
  · cases limit <;> simp [sessionEntries, Limit.setting]
  · intro e he hname v s s' h
    simp only [sessionEntries, List.mem_cons, List.not_mem_nil, or_false] at he
    rcases he with rfl | rfl | rfl <;> cases limit <;>
      simp only [Limit.setting, String.reduceEq] at hname <;>
      obtain ⟨n, hread, rfl⟩ := Option.map_eq_some_iff.mp h <;>
      exact eq_integer_of_readCount hread
  · intro e he hname v s s' h
    simp only [sessionEntries, List.mem_cons, List.not_mem_nil, or_false] at he
    rcases he with rfl | rfl | rfl <;> cases limit <;>
      simp only [Limit.setting, ne_eq, String.reduceEq, not_true_eq_false] at hname <;>
      obtain ⟨n, hread, rfl⟩ := Option.map_eq_some_iff.mp h <;>
      rfl

/-- The limits are settled by the section of the session alone. -/
theorem settles_session : Settles Settings.entries "session" Settings.session fun v limits =>
    Settings.readSection sessionEntries {} v = some limits := by
  constructor
  · simp [Settings.entries]
  · intro e he hname v s s' h
    simp only [Settings.entries, List.mem_cons, List.not_mem_nil, or_false] at he
    rcases he with rfl | rfl
    · obtain ⟨limits, hread, rfl⟩ := Option.map_eq_some_iff.mp h
      exact hread
    · simp only [String.reduceEq] at hname
  · intro e he hname v s s' h
    simp only [Settings.entries, List.mem_cons, List.not_mem_nil, or_false] at he
    rcases he with rfl | rfl
    · exact absurd rfl hname
    · obtain ⟨logging, hread, rfl⟩ := Option.map_eq_some_iff.mp h
      rfl

/-- Settings that were read have each limit as the document gives it, whatever it says of the other
    limits, and where it does not give the limit they have the default. -/
theorem limit_of_ofToml? {text : String} {settings : Settings} (limit : Limit)
    (hread : Document.read? text = some doc) (h : ofToml? text = some settings) :
    (∀ v, Says doc limit v → v = .integer (limit.of settings.session)) ∧
      ((∀ v, ¬ Says doc limit v) → limit.of settings.session = limit.default) := by
  have hdoc := Document.distinct_of_read? hread
  rw [ofToml?, hread, Option.bind_some] at h
  obtain ⟨hsession, hnone⟩ := settles_session.readSection known_entries (by decide) hdoc h
  have hsection : ∀ session, ("session", session) ∈ members sectionNames doc →
      (∀ v, (limit.setting, v) ∈ members sessionNames session →
        v = .integer (limit.of settings.session)) ∧
      ((∀ v, (limit.setting, v) ∉ members sessionNames session) →
        limit.of settings.session = limit.default) := by
    intro session hmem
    obtain ⟨hfound, hkept⟩ := (settles_limit limit).readSection known_sessionEntries (by decide)
      (distinct_of_mem_members hdoc hmem) (hsession session hmem)
    refine ⟨hfound, fun hno => (hkept hno).trans ?_⟩
    cases limit <;> rfl
  constructor
  · rintro v ⟨session, hmem, hv⟩
    exact (hsection session hmem).1 v hv
  · intro hno
    by_cases hexists : ∃ session, ("session", session) ∈ members sectionNames doc
    · obtain ⟨session, hmem⟩ := hexists
      exact (hsection session hmem).2 fun v hv => hno v ⟨session, hmem, hv⟩
    · rw [hnone fun session hmem => hexists ⟨session, hmem⟩]
      cases limit <;> rfl

end Settings
end ConsoleTap
