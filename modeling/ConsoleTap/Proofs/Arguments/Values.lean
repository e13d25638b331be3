import ConsoleTap.Proofs.Arguments.Spelling

/-!
# What a command line gives a limit

Of the items of a command line that is read, at most one gives a limit, and the limit is the
number that this item spells, wherever the item stands and whatever the others say.  The
proof follows the reader through the items: the values met so far are told apart into the
one that is settled and the one that waits.
-/

namespace ConsoleTap

open Arguments

namespace Limit

/-- The option that gives the limit. -/
def flag : Limit → Flag
  | connectTimeout => .connectTimeoutSecs
  | fetchTimeout => .fetchTimeoutMs
  | depth => .depth

/-- Reads what an option gives the limit. -/
def read : Limit → List Char → Except UsageFault Nat
  | depth => readDepth
  | _ => readLimit

/-- The limit in what a command line asks for. -/
def given (i : Invocation) : Limit → Option Nat
  | connectTimeout => i.connectTimeoutSecs
  | fetchTimeout => i.fetchTimeoutMs
  | depth => i.depth

/-- The limit, as far as a command line has been read. -/
def taken (p : Progress) : Limit → Option Nat
  | connectTimeout => p.connectTimeoutSecs
  | fetchTimeout => p.fetchTimeoutMs
  | depth => p.depth

/-- The limit takes the value of an option, if that is its own one. -/
def takes (limit : Limit) (flag : Flag) (value : List Char) : List (List Char) :=
  if flag = limit.flag then [value] else []

/-- The value that waits to be settled, if it is one of the limit. -/
def waiting (limit : Limit) (p : Progress) : List (List Char) :=
  match p.pending with
  | some (flag, some value) => limit.takes flag value
  | _ => []

/-- The values that the items give the limit. -/
def values (limit : Limit) (items : List Item) : List (List Char) :=
  items.flatMap fun
    | .option flag value => limit.takes flag value.toList
    | .address _ => []

theorem of_override (i : Invocation) (s : SessionSettings) (limit : Limit) :
    limit.of (i.override s) = (limit.given i).getD (limit.of s) := by
  cases limit <;> rfl

/-- No option gives a timeout that is zero. -/
theorem pos_of_read {limit : Limit} {value : List Char} {n : Nat} (htimeout : limit ≠ depth)
    (h : limit.read value = .ok n) : 0 < n := by
  have hread : readLimit value = .ok n := by
    cases limit with
    | connectTimeout => exact h
    | fetchTimeout => exact h
    | depth => exact absurd rfl htimeout
  unfold readLimit at hread
  simp only at hread
  split at hread
  · split at hread
    · rename_i hrange
      cases hread
      exact hrange.1
    · cases hread
  · cases hread

end Limit

namespace Arguments

open Progress

variable {limit : Limit} {vs : List (List Char)} {p p' q : Progress} {flag : Flag}
  {value : List Char} {i : Invocation} {arguments : List String} {items : List Item}

/-! ### Values met so far -/

/-- What a limit is once it was given these values: one at most. -/
inductive Told (limit : Limit) : List (List Char) → Option Nat → Prop where
  | nothing : Told limit [] none
  | once {value : List Char} {n : Nat} (h : limit.read value = .ok n) :
      Told limit [value] (some n)

/-- These values of the limit have been met: what is settled of them, and what waits. -/
def Tells (limit : Limit) (vs : List (List Char)) (p : Progress) : Prop :=
  ∃ settled, vs = settled ++ limit.waiting p ∧ Told limit settled (limit.taken p)

theorem tells_iff_of_pending_eq_none (h : p.pending = none) :
    Tells limit vs p ↔ Told limit vs (limit.taken p) := by
  have hwaiting : limit.waiting p = [] := by rw [Limit.waiting, h]
  simp [Tells, hwaiting]

/-- Storing a value settles it for the limit of its option. -/
theorem told_of_stored (htold : Told limit vs (limit.taken p)) (h : Stored p flag value q) :
    Told limit (vs ++ limit.takes flag value) (limit.taken q) := by
  -- the limit of the option has had no value, the others keep what they had
  have hother : flag ≠ limit.flag → limit.taken q = limit.taken p →
      Told limit (vs ++ limit.takes flag value) (limit.taken q) := by
    intro hne hkeeps
    rw [Limit.takes, if_neg hne, List.append_nil, hkeeps]
    exact htold
  have hown : ∀ n, flag = limit.flag → limit.taken p = none → limit.read value = .ok n →
      limit.taken q = some n → Told limit (vs ++ limit.takes flag value) (limit.taken q) := by
    intro n heq hnone hread hq
    rw [hnone] at htold
    cases htold
    rw [Limit.takes, if_pos heq, hq]
    exact .once hread
  cases h with
  | config hnone => cases limit <;> exact hother (by decide) rfl
  | depth hnone hread =>
      cases limit with
      | depth => exact hown _ rfl hnone hread rfl
      | _ => exact hother (by decide) rfl
  | fetchTimeoutMs hnone hread =>
      cases limit with
      | fetchTimeout => exact hown _ rfl hnone hread rfl
      | _ => exact hother (by decide) rfl
  | connectTimeoutSecs hnone hread =>
      cases limit with
      | connectTimeout => exact hown _ rfl hnone hread rfl
      | _ => exact hother (by decide) rfl

theorem told_of_settle (htells : Tells limit vs p) (h : p.settle = .ok q) :
    Told limit vs (limit.taken q) := by
  obtain ⟨settled, rfl, htold⟩ := htells
  unfold settle at h
  split at h
  · rename_i hpending
    cases h
    exact (tells_iff_of_pending_eq_none hpending).mp ⟨settled, rfl, htold⟩
  · cases h
  · rename_i flag value hpending
    have hwaiting : limit.waiting p = limit.takes flag value := by rw [Limit.waiting, hpending]
    rw [hwaiting]
    have hsame : limit.taken { p with pending := none } = limit.taken p := by cases limit <;> rfl
    exact told_of_stored (hsame.symm ▸ htold) (stored_of_store h)

theorem tells_of_settle (htells : Tells limit vs p) (h : p.settle = .ok q) : Tells limit vs q :=
  (tells_iff_of_pending_eq_none (pending_of_settle h).1).mpr (told_of_settle htells h)

/-! ### Following the items -/

theorem tells_of_takeAddress {s : List Char} (htells : Tells limit vs p)
    (h : p.takeAddress s = .ok p') : Tells limit vs p' := by
  unfold takeAddress at h
  split at h
  · cases h
  · obtain ⟨q, hsettle, h⟩ := bind_eq_ok_iff.mp h
    cases h
    obtain ⟨settled, hvs, htold⟩ := tells_of_settle htells hsettle
    exact ⟨settled, hvs, by cases limit <;> exact htold⟩

theorem tells_of_takeOption_attached (htells : Tells limit vs p)
    (h : p.takeOption (.flag flag) (some value) = .ok p') :
    Tells limit (vs ++ limit.takes flag value) p' := by
  obtain ⟨q, hsettle, hstore⟩ := bind_eq_ok_iff.mp h
  have hstored := stored_of_store hstore
  have hpending := hstored.keeps.1.trans (pending_of_settle hsettle).1
  exact (tells_iff_of_pending_eq_none hpending).mpr
    (told_of_stored (told_of_settle htells hsettle) hstored)

/-- An option whose value is the next argument: it waits with its value. -/
theorem tells_of_takeOption_apart (htells : Tells limit vs p)
    (h : p.takeOption (.flag flag) none = .ok p') (hnext : p'.takePlain value = .ok q) :
    Tells limit (vs ++ limit.takes flag value) q ∧ (p.optionsEnded = false → q.Open) := by
  obtain ⟨settled, hsettle, hp'⟩ := bind_eq_ok_iff.mp h
  cases hp'
  cases hnext
  refine ⟨⟨vs, rfl, ?_⟩, fun hended => ⟨(pending_of_settle hsettle).2.trans hended, nofun⟩⟩
  have htold := told_of_settle htells hsettle
  cases limit <;> exact htold

theorem tells_of_addresses (hended : p.optionsEnded = true) (htells : Tells limit vs p)
    (h : arguments.foldlM take p = .ok p') : Tells limit vs p' := by
  induction arguments generalizing p with
  | nil =>
      cases h
      exact htells
  | cons argument rest ih =>
      rw [List.foldlM_cons] at h
      obtain ⟨next, htake, h⟩ := bind_eq_ok_iff.mp h
      rw [take_of_ended hended] at htake
      refine ih ?_ (tells_of_takeAddress htells htake) h
      unfold takeAddress at htake
      split at htake
      · cases htake
      · obtain ⟨q, hsettle, hq⟩ := bind_eq_ok_iff.mp htake
        cases hq
        exact (pending_of_settle hsettle).2.trans hended

/-- The reader meets the values of a limit as the items give them. -/
theorem tells_of_spells (hspells : Spells arguments items) (hopen : p.Open)
    (htells : Tells limit vs p) (h : arguments.foldlM take p = .ok p') :
    Tells limit (vs ++ limit.values items) p' := by
  induction hspells generalizing p vs with
  | nothing =>
      cases h
      rwa [Limit.values, List.flatMap_nil, List.append_nil]
  | @apart argument value flag rest items hname hplain hrest ih =>
      rw [List.foldlM_cons] at h
      obtain ⟨named, htake, h⟩ := bind_eq_ok_iff.mp h
      rw [take_of_names hopen.taking hname] at htake
      rw [List.foldlM_cons] at h
      obtain ⟨next, htake', h⟩ := bind_eq_ok_iff.mp h
      have hended : named.optionsEnded = false := by
        obtain ⟨q, hsettle, hq⟩ := bind_eq_ok_iff.mp htake
        cases hq
        exact (pending_of_settle hsettle).2.trans hopen.taking
      rw [take_of_isPlain hended hplain] at htake'
      obtain ⟨hnext, hopen'⟩ := tells_of_takeOption_apart htells htake htake'
      have := ih (hopen' hopen.taking) hnext h
      rwa [List.append_assoc] at this
  | attached hcarries hrest ih =>
      rw [List.foldlM_cons] at h
      obtain ⟨next, htake, h⟩ := bind_eq_ok_iff.mp h
      rw [take_of_carries hopen.taking hcarries] at htake
      have := ih (open_of_takeOption_attached hopen.taking htake)
        (tells_of_takeOption_attached htells htake) h
      rwa [List.append_assoc] at this
  | @address text rest items hplain hrest ih =>
      rw [List.foldlM_cons] at h
      obtain ⟨next, htake, h⟩ := bind_eq_ok_iff.mp h
      rw [take_of_isPlain hopen.taking hplain, takePlain] at htake
      split at htake
      · exact absurd ‹_› (hopen.settled _)
      · exact ih (open_of_takeAddress hopen.taking htake) (tells_of_takeAddress htells htake) h
  | addresses texts =>
      rw [List.foldlM_cons] at h
      obtain ⟨next, htake, h⟩ := bind_eq_ok_iff.mp h
      have hnext : p.take "--" = .ok { p with optionsEnded := true } := by simp [take, hopen.taking]
      obtain rfl := Except.ok.inj (hnext.symm.trans htake)
      have hvalues : limit.values (texts.map .address) = [] := by
        simp [Limit.values, List.flatMap_map]
      rw [hvalues, List.append_nil]
      obtain ⟨settled, hvs, htold⟩ := htells
      have hended : Tells limit vs { p with optionsEnded := true } :=
        ⟨settled, hvs, by cases limit <;> exact htold⟩
      exact tells_of_addresses rfl hended h

/-- The items of a command line that is read give each limit one value at most, and the limit is the
    number that this value spells. -/
theorem told_of_read (hspells : Spells arguments items) (h : Arguments.read arguments = .ok i) :
    Told limit (limit.values items) (limit.given i) := by
  obtain ⟨p, hfold, hfinish⟩ := bind_eq_ok_iff.mp h
  have hstart : Tells limit [] {} := ⟨[], rfl, by cases limit <;> exact .nothing⟩
  have hopen : ({} : Progress).Open := ⟨rfl, nofun⟩
  have htells := tells_of_spells hspells hopen hstart hfold
  obtain ⟨q, hsettle, hq⟩ := bind_eq_ok_iff.mp hfinish
  have htold := told_of_settle htells hsettle
  split at hq
  · cases hq
  · cases hq
    cases limit <;> exact htold

theorem mem_values_iff {v : List Char} :
    v ∈ limit.values items ↔ ∃ value : String, .option limit.flag value ∈ items ∧ value.toList = v := by
  constructor
  · intro hmem
    obtain ⟨item, hitem, hv⟩ := List.mem_flatMap.mp hmem
    cases item with
    | option flag value =>
        simp only [Limit.takes] at hv
        split at hv
        · rename_i hflag
          exact ⟨value, hflag ▸ hitem, (List.mem_singleton.mp hv).symm⟩
        · cases hv
    | address text => cases hv
  · rintro ⟨value, hmem, rfl⟩
    refine List.mem_flatMap.mpr ⟨_, hmem, ?_⟩
    simp [Limit.takes]

/-- Of a command line that is read, one item at most gives a limit, and where one does the limit is
    the number that its value spells. -/
theorem given_of_read (limit : Limit) (hspells : Spells arguments items)
    (h : Arguments.read arguments = .ok i) :
    (∃ value n, .option limit.flag value ∈ items ∧
        (∀ other, .option limit.flag other ∈ items → other = value) ∧
        limit.read value.toList = .ok n ∧ limit.given i = some n) ∨
      (∀ value, .option limit.flag value ∉ items) ∧ limit.given i = none := by
  have htold : Told limit (limit.values items) (limit.given i) := told_of_read hspells h
  generalize hvs : limit.values items = vs at htold
  generalize hgiven : limit.given i = given at htold
  cases htold with
  | nothing =>
      refine Or.inr ⟨fun value hmem => ?_, rfl⟩
      have hv := mem_values_iff.mpr ⟨value, hmem, rfl⟩
      rw [hvs] at hv
      cases hv
  | @once v n hread =>
      obtain ⟨value, hmem, rfl⟩ := mem_values_iff.mp (hvs ▸ List.mem_singleton_self v)
      refine Or.inl ⟨value, n, hmem, fun other hother => ?_, hread, rfl⟩
      have hv := mem_values_iff.mpr ⟨other, hother, rfl⟩
      rw [hvs] at hv
      exact String.toList_injective (List.mem_singleton.mp hv)

end Arguments
end ConsoleTap
