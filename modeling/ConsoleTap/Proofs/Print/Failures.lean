import ConsoleTap.Proofs.Print.Depth

/-!
# Failed fetches stay local

Two sources that differ in one handle only, which one of them answers and the other does
not, give the same tree but for what is made from the fetches of that handle: where the one
has the mapping, the other has the text that says why the fetch failed.  The handle may be
met at several places, also below itself; what changes is the part at the first of them on
each way down, since below a failed fetch there is nothing.
-/

namespace ConsoleTap.Print

open ConsoleTap.Target

variable {answered failing source : PropertyLookup} {depth : Nat} {o x : RemoteObject}
  {objectId : String} {fault : Fault} {place : List Nat}

/-! ### The text of a failure -/

theorem append_ne_timeout {s : String} {c : Char} (hs : s.toList.head? = some c) (hc : c ≠ 't')
    (rest : String) : s ++ rest ≠ "timeout" := by
  intro h
  have hhead : (s ++ rest).toList.head? = some 't' := by rw [h]; rfl
  rw [String.toList_append, List.head?_append, hs] at hhead
  exact hc (Option.some.inj hhead)

theorem message_ne_timeout (fault : Fault) : fault.message ≠ "timeout" := by
  cases fault with
  | connectionFailed text => exact append_ne_timeout (s := "Connection failed: ") rfl (by decide) _
  | transport cause => exact append_ne_timeout (s := "Transport error: ") rfl (by decide) _
  | protocol code text =>
      refine append_ne_timeout (s := "CDP error: " ++ text ++ " (code: " ++ _) (c := 'C') ?_
        (by decide) _
      simp
  | serialization cause => exact append_ne_timeout (s := "Serialization error: ") rfl (by decide) _
  | timeout text => exact append_ne_timeout (s := "Timeout: ") rfl (by decide) _
  | cancelled => exact (by decide : "Session closed" ≠ "timeout")
  | invalidResponse text => exact append_ne_timeout (s := "Invalid response: ") rfl (by decide) _
  | «internal» text => exact append_ne_timeout (s := "Internal error: ") rfl (by decide) _

theorem failureText_of_not_timeout (h : ∀ text, fault ≠ .timeout text) :
    failureText fault = "[Object: " ++ fault.message ++ "]" := by
  cases fault with
  | timeout text => exact absurd rfl (h text)
  | _ => rfl

/-- Only a fetch that ran out of time leaves the text for that: no other message reads like it. -/
theorem failureText_eq_timeout_iff :
    failureText fault = "[Object: timeout]" ↔ ∃ text, fault = .timeout text := by
  constructor
  · intro h
    by_contra hother
    rw [failureText_of_not_timeout (not_exists.mp hother)] at h
    have hsplit : "[Object: timeout]" = "[Object: " ++ "timeout" ++ "]" := rfl
    rw [hsplit, String.append_left_inj, String.append_right_inj] at h
    exact message_ne_timeout fault h
  · rintro ⟨text, rfl⟩
    rfl

/-! ### Sources that differ in one handle -/

/-- What stands at the places where a handle is fetched if the fetch fails. -/
def failureAt? (source : PropertyLookup) (depth : Nat) (objectId : String) (fault : Fault)
    (o : RemoteObject) (place : List Nat) : Option Node :=
  if place.length < depth ∧ (objectAt? source place o).bind handle? = some objectId then
    some (.text (failureText fault))
  else none

theorem failureAt?_eq_some_iff {node : Node} :
    failureAt? source depth objectId fault o place = some node ↔
      ⟨place, objectId⟩ ∈ fetchesWithin source depth o ∧ node = .text (failureText fault) := by
  rw [failureAt?, mem_fetchesWithin, ← Option.bind_eq_some_iff]
  split <;> simp_all [eq_comm]

theorem failureAt?_nil :
    failureAt? source (depth + 1) objectId fault o [] =
      if handle? o = some objectId then some (.text (failureText fault)) else none := by
  simp [failureAt?, objectAt?]

theorem failureAt?_of_no_parts (h : parts source o = []) (i : Nat) (place : List Nat) :
    failureAt? source depth objectId fault o (i :: place) = none := by
  simp [failureAt?, objectAt?_of_no_parts h]

theorem failureAt?_cons {i : Nat} (h : (parts source o)[i]? = some x) (place : List Nat) :
    failureAt? source (depth + 1) objectId fault o (i :: place) =
      failureAt? source depth objectId fault x place := by
  simp only [failureAt?, objectAt?, h, List.length_cons, Nat.succ_lt_succ_iff, Option.bind_some]

/-- Where nothing is fetched but for other handles, nothing fails. -/
theorem failureAt?_eq_none (hother : handle? o ≠ some objectId) (hparts : parts source o = [])
    (place : List Nat) : failureAt? source (depth + 1) objectId fault o place = none := by
  cases place with
  | nil => rw [failureAt?_nil, if_neg hother]
  | cons i place => exact failureAt?_of_no_parts hparts i place

theorem parts_eq_of_same (hsame : ∀ other, other ≠ objectId → failing other = answered other)
    (hother : handle? o ≠ some objectId) : parts failing o = parts answered o := by
  cases hhandle : handle? o with
  | none => rw [parts_of_none hhandle, parts_of_none hhandle]
  | some own =>
      have hown : own ≠ objectId := fun hown => hother (by rw [hhandle, hown])
      simp only [parts, hhandle, hsame own hown]

theorem node_eq_graft_failure (hfails : failing objectId = .error fault)
    (hsame : ∀ other, other ≠ objectId → failing other = answered other) (depth : Nat)
    (o : RemoteObject) :
    (Expansion.ofObject failing depth o).node =
      (Expansion.ofObject answered depth o).node.graft
        (failureAt? answered depth objectId fault o) := by
  induction depth generalizing o with
  | zero =>
      rw [ofObject_plain (Or.inl rfl), ofObject_plain (Or.inl rfl), graft_of_none]
      exact fun place => by simp [failureAt?]
  | succ depth ih =>
      cases hhandle : handle? o with
      | none =>
          rw [ofObject_plain (Or.inr hhandle), ofObject_plain (Or.inr hhandle), graft_of_none]
          exact failureAt?_eq_none (by simp [hhandle]) (parts_of_none hhandle)
      | some own =>
          by_cases hown : own = objectId
          · subst hown
            rw [ofObject_failed hhandle hfails, graft_of_root]
            rw [failureAt?_nil, if_pos hhandle]
          · have hother : handle? o ≠ some objectId := by simpa [hhandle] using hown
            cases hsource : answered own with
            | error cause =>
                rw [ofObject_failed hhandle ((hsame own hown).trans hsource),
                  ofObject_failed hhandle hsource, graft_of_none]
                exact failureAt?_eq_none hother (parts_of_failed hhandle hsource)
            | ok properties =>
                rw [node_fetched hhandle ((hsame own hown).trans hsource),
                  node_fetched hhandle hsource]
                have hroot : failureAt? answered (depth + 1) objectId fault o [] = none := by
                  rw [failureAt?_nil, if_neg hother]
                refine (graft_fetched hhandle hsource hroot _
                  (fun x => (Expansion.ofObject answered depth x).node)
                  (fun x => (Expansion.ofObject failing depth x).node) fun i x hpart => ?_).symm
                rw [funext (failureAt?_cons hpart)]
                exact (ih x).symm

/-- What is fetched from the source that fails: what is fetched from the other one and not below a
    fetch of the handle. -/
theorem mem_fetchesWithin_failing (hfails : failing objectId = .error fault)
    (hsame : ∀ other, other ≠ objectId → failing other = answered other) {own : String} :
    ⟨place, own⟩ ∈ fetchesWithin failing depth o ↔
      ⟨place, own⟩ ∈ fetchesWithin answered depth o ∧
        ∀ above, above <+: place → above ≠ place →
          ⟨above, objectId⟩ ∉ fetchesWithin answered depth o := by
  induction place generalizing depth o with
  | nil =>
      cases depth with
      | zero => simp [fetchesWithin]
      | succ depth =>
          rw [mem_fetchesWithin_nil, mem_fetchesWithin_nil, iff_self_and]
          exact fun _ above hprefix hne => absurd (List.prefix_nil.mp hprefix) hne
  | cons i place ih =>
      cases depth with
      | zero => simp [fetchesWithin]
      | succ depth =>
          rw [mem_fetchesWithin_cons, mem_fetchesWithin_cons]
          by_cases hown : handle? o = some objectId
          · -- nothing is met below the object itself, which is above the place
            rw [parts_of_failed hown hfails]
            refine iff_of_false (by simp) fun h => ?_
            exact h.2 [] List.nil_prefix (by simp) (mem_fetchesWithin_nil.mpr hown)
          · rw [parts_eq_of_same hsame hown]
            constructor
            · rintro ⟨part, hpart, hf⟩
              obtain ⟨hf, hnone⟩ := ih.mp hf
              refine ⟨⟨part, hpart, hf⟩, fun above hprefix hne habove => ?_⟩
              cases above with
              | nil => exact hown (mem_fetchesWithin_nil.mp habove)
              | cons j above =>
                  obtain ⟨rfl, hbelow⟩ := List.cons_prefix_cons.mp hprefix
                  obtain ⟨part', hpart', habove⟩ := mem_fetchesWithin_cons.mp habove
                  obtain rfl := Option.some.inj (hpart.symm.trans hpart')
                  exact hnone above hbelow (fun heq => hne (by rw [heq])) habove
            · rintro ⟨⟨part, hpart, hf⟩, hnone⟩
              refine ⟨part, hpart, ih.mpr ⟨hf, fun above hprefix hne habove => ?_⟩⟩
              exact hnone (i :: above) (List.cons_prefix_cons.mpr ⟨rfl, hprefix⟩) (by simpa using hne)
                (mem_fetchesWithin_cons.mpr ⟨part, hpart, habove⟩)

/-- Where the fetch of a handle fails, its text stands. -/
theorem at?_of_failed (hfails : failing objectId = .error fault)
    (hf : ⟨place, objectId⟩ ∈ fetchesWithin failing depth o) :
    (Expansion.ofObject failing depth o).node.at? place = some (.text (failureText fault)) := by
  obtain ⟨hlt, x, hx, hhandle⟩ := mem_fetchesWithin.mp hf
  obtain ⟨hops, hhops⟩ := Nat.exists_eq_succ_of_ne_zero (Nat.sub_ne_zero_of_lt hlt)
  rw [ofObject_at? hx (Nat.le_of_lt hlt), hhops, ofObject_failed hhandle hfails]

/-! ### Locality -/

/-- If the fetch of one handle fails, the tree is the same but for the nodes made from the fetches of
    that handle: the text of the failure takes the place of each.  Everything that is not below such
    a node is fetched as before.  The text tells a fetch that ran out of time from all others, which
    say what went wrong; and there is a tree in any case, however many hops are allowed. -/
theorem failure_stays_local (answered failing : PropertyLookup) (depth : Nat) (o : RemoteObject)
    (hfails : failing objectId = .error fault)
    (hsame : ∀ other, other ≠ objectId → failing other = answered other) :
    (Expansion.ofObject failing depth o).node =
      (Expansion.ofObject answered depth o).node.graft
        (failureAt? answered depth objectId fault o) ∧
    (∀ place node, failureAt? answered depth objectId fault o place = some node ↔
      ⟨place, objectId⟩ ∈ fetchesWithin answered depth o ∧ node = .text (failureText fault)) ∧
    (∀ place own, ⟨place, own⟩ ∈ fetchesWithin failing depth o ↔
      ⟨place, own⟩ ∈ fetchesWithin answered depth o ∧
        ∀ above, above <+: place → above ≠ place →
          ⟨above, objectId⟩ ∉ fetchesWithin answered depth o) ∧
    (∀ place, ⟨place, objectId⟩ ∈ fetchesWithin failing depth o →
      (Expansion.ofObject failing depth o).node.at? place = some (.text (failureText fault))) ∧
    (failureText fault = "[Object: timeout]" ↔ ∃ text, fault = .timeout text) ∧
    ((∀ text, fault ≠ .timeout text) →
      failureText fault = "[Object: " ++ fault.message ++ "]") ∧
    ∀ hops : UInt32,
      Expansion.checked failing hops o = some (Expansion.ofObject failing hops.toNat o) :=
  ⟨node_eq_graft_failure hfails hsame depth o, fun _ _ => failureAt?_eq_some_iff,
    fun _ _ => mem_fetchesWithin_failing hfails hsame, fun _ => at?_of_failed hfails,
    failureText_eq_timeout_iff, failureText_of_not_timeout, fun hops => checked_eq hops o⟩

/-- A handle that is met at two levels and below itself. -/
def shelfLookup : PropertyLookup := fun objectId =>
  let cup : RemoteObject := { kind := some "object", className := some "Cup", objectId := some "cup" }
  if objectId = "shelf" then
    .ok [⟨"left", some cup⟩, ⟨"box", some { kind := some "object", objectId := some "box" }⟩,
      ⟨"label", some { kind := some "string", value := some (.string "red") }⟩]
  else if objectId = "box" then .ok [⟨"spare", some cup⟩]
  else if objectId = "cup" then
    .ok [⟨"twin", some cup⟩, ⟨"size", some { kind := some "number", value := some (.integer 3) }⟩]
  else .error .cancelled

def brokenCupLookup : PropertyLookup := fun objectId =>
  if objectId = "cup" then .error (.invalidResponse "Missing property list")
  else shelfLookup objectId

def shelf : RemoteObject :=
  { kind := some "object", className := some "Shelf", objectId := some "shelf" }

theorem failure_stays_local_twice :
    brokenCupLookup "cup" = .error (.invalidResponse "Missing property list") ∧
    (∀ other, other ≠ "cup" → brokenCupLookup other = shelfLookup other) ∧
    (Expansion.ofObject brokenCupLookup 3 shelf).node =
      .mapping (some "Shelf")
        [("left", .text "[Object: Invalid response: Missing property list]"),
          ("box", .mapping none
            [("spare", .text "[Object: Invalid response: Missing property list]")]),
          ("label", .inline (.string "red"))] := by
  have hfails : brokenCupLookup "cup" = .error (.invalidResponse "Missing property list") := rfl
  have hsame : ∀ other, other ≠ "cup" → brokenCupLookup other = shelfLookup other :=
    fun other hother => if_neg hother
  obtain ⟨hnode, -⟩ := failure_stays_local shelfLookup brokenCupLookup 3 shelf hfails hsame
  exact ⟨hfails, hsame, hnode.trans rfl⟩

end ConsoleTap.Print
