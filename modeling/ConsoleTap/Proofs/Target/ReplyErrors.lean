import ConsoleTap.Proofs.Json.Distinct
import ConsoleTap.Proofs.Json.Records
import ConsoleTap.Target.Message

/-!
# What an error of a reply spells

The error of a reply is whatever JSON the target put there.  `SpellsError` says which values
spell a code and a message: an object, in which both may be missing, or the three items of
the positional form, whose last one may be anything.  `readReplyError_ok_iff` says that these
are the values that are read, and that code and message are read as they are spelled.
-/

namespace ConsoleTap.Target

open ConsoleTap.Json

/-- The code that a member gives: an integer of 64 bits, or zero if there is no such member. -/
inductive SpellsCode : Option Value → Int → Prop where
  | missing : SpellsCode none 0
  | integer {code : Int} (hrange : Is64Bit code) : SpellsCode (some (.integer code)) code

/-- The message that a member gives: a text, or the empty one if there is no such member. -/
inductive SpellsMessage : Option Value → String → Prop where
  | missing : SpellsMessage none ""
  | text (message : String) : SpellsMessage (some (.string message)) message

/-- The value spells an error with that code and that message. -/
inductive SpellsError : Value → Int → String → Prop where
  | members {ms : Members} {code : Int} {message : String}
      (hcode : SpellsCode (Members.get? ms "code") code)
      (hmessage : SpellsMessage (Members.get? ms "message") message) :
      SpellsError (.object ms) code message
  | items {v w : Value} {code : Int} {message : String} (hcode : SpellsCode (some v) code)
      (hmessage : SpellsMessage (some w) message) (data : Value) :
      SpellsError (.array [v, w, data]) code message

variable {v : Value} {v? : Option Value} {code : Int} {message : String} {ms : Members}

/-! ### Code and message -/

theorem spellsCode_iff : SpellsCode (some v) code ↔ readInteger v = .ok code := by
  rw [readInteger_ok_iff]
  constructor
  · intro h
    cases h with
    | integer hrange => exact ⟨rfl, hrange⟩
  · rintro ⟨rfl, hrange⟩
    exact .integer hrange

theorem spellsMessage_iff : SpellsMessage (some v) message ↔ readString v = .ok message := by
  rw [readString_ok_iff]
  constructor
  · intro h
    cases h with
    | text => rfl
  · rintro rfl
    exact .text message

/-- The data of an error may be anything. -/
theorem exists_data (v : Value) : ∃ data, readOption Except.ok v = .ok data := by
  by_cases h : v = .null
  · exact ⟨none, by rw [h]; rfl⟩
  · exact ⟨some v, by rw [readOption_of_ne_null h]; rfl⟩

/-! ### Objects -/

theorem lawful_replyError : ReplyError.schema.Lawful where
  names := by decide
  commute := by
    refine .cons ?_ (.cons ?_ (List.pairwise_singleton _ _))
    · simp only [List.forall_mem_cons, List.not_mem_nil, false_implies, implies_true, and_true]
      exact ⟨Json.Field.commute_field fun _ _ _ => rfl,
        .of_puts (fun _ _ => rfl) (fun _ _ => rfl) fun _ _ _ => rfl⟩
    · simp only [List.forall_mem_cons, List.not_mem_nil, false_implies, implies_true, and_true]
      exact .of_puts (fun _ _ => rfl) (fun _ _ => rfl) fun _ _ _ => rfl

/-- A field is filled with what its member spells, if a missing member spells the default. -/
theorem fill_eq_some_iff {R α : Type} {name : String} {read : Value → Reading α} {put : R → α → R}
    {Spells : Option Value → α → Prop} (absent : α) {r r' : R}
    (hmissing : ∀ x, Spells none x ↔ x = absent)
    (hpresent : ∀ v x, Spells (some v) x ↔ read v = .ok x) (habsent : put r absent = r) :
    (field name read put).fill v? r = some r' ↔ ∃ x, Spells v? x ∧ put r x = r' := by
  cases v? with
  | none => simp [Json.Field.fill, hmissing, habsent]
  | some v =>
      simp only [hpresent]
      change ((read v).map (put r)).toOption = some r' ↔ _
      rw [toOption_eq_some_iff, map_eq_ok_iff]

theorem exists_fill_data (v? : Option Value) (e : ReplyError) :
    ∃ data, (requiredField "data" (readOption Except.ok) fun (e : ReplyError) x =>
      { e with data := x }).fill v? e = some { e with data } := by
  cases v? with
  | none => exact ⟨e.data, rfl⟩
  | some v =>
      obtain ⟨data, hdata⟩ := exists_data v
      refine ⟨data, ?_⟩
      change ((readOption Except.ok v).map fun x => { e with data := x }).toOption = _
      rw [hdata]
      rfl

theorem read_members_iff (hms : (ms.map Prod.fst).Nodup) :
    (∃ e, readReplyError (.object ms) = .ok e ∧ e.code = code ∧ e.message = message) ↔
      SpellsCode (Members.get? ms "code") code ∧
        SpellsMessage (Members.get? ms "message") message := by
  have hcode (e : ReplyError) :
      (field "code" readInteger fun (e : ReplyError) x => { e with code := x }).fill
        (Members.get? ms "code") {} = some e ↔
      ∃ code, SpellsCode (Members.get? ms "code") code ∧ { code } = e :=
    fill_eq_some_iff 0 (fun x => ⟨fun h => by cases h; rfl, fun h => h ▸ .missing⟩)
      (fun _ _ => spellsCode_iff) rfl
  have hmessage (c : Int) (e : ReplyError) :
      (field "message" readString fun (e : ReplyError) x => { e with message := x }).fill
        (Members.get? ms "message") { code := c } = some e ↔
      ∃ message, SpellsMessage (Members.get? ms "message") message ∧ { code := c, message } = e :=
    fill_eq_some_iff "" (fun x => ⟨fun h => by cases h; rfl, fun h => h ▸ .missing⟩)
      (fun _ _ => spellsMessage_iff) rfl
  simp only [← toOption_eq_some_iff, readReplyError, lawful_replyError.read_object hms]
  simp only [ReplyError.schema, Schema.gather_cons, Option.bind_eq_some_iff]
  constructor
  · rintro ⟨e, ⟨e₁, he₁, e₂, he₂, e₃, he₃, heq⟩, rfl, rfl⟩
    obtain ⟨c, hc, rfl⟩ := (hcode e₁).mp he₁
    obtain ⟨text, htext, rfl⟩ := (hmessage c e₂).mp he₂
    obtain ⟨data, hdata⟩ := exists_fill_data (Members.get? ms "data") { code := c, message := text }
    obtain rfl := Option.some.inj (hdata.symm.trans he₃)
    obtain rfl := Option.some.inj heq
    exact ⟨hc, htext⟩
  · rintro ⟨hc, htext⟩
    obtain ⟨data, hdata⟩ := exists_fill_data (Members.get? ms "data") { code, message }
    exact ⟨{ code, message, data }, ⟨_, (hcode _).mpr ⟨code, hc, rfl⟩, _,
      (hmessage code _).mpr ⟨message, htext, rfl⟩, _, hdata, rfl⟩, rfl, rfl⟩

/-! ### Positional forms -/

theorem read_items_iff {items : List Value} :
    (∃ e, readReplyError (.array items) = .ok e ∧ e.code = code ∧ e.message = message) ↔
      ∃ v w data, items = [v, w, data] ∧ SpellsCode (some v) code ∧
        SpellsMessage (some w) message := by
  simp only [spellsCode_iff, spellsMessage_iff]
  constructor
  · rintro ⟨e, he, rfl, rfl⟩
    -- fewer items lack the data, which has no default here, and nothing may follow it
    have hlength : items.length ≤ 3 := Schema.length_le_of_storeItems he
    match items, he with
    | [], he => cases he
    | [v], he =>
        obtain ⟨_, -, hrest⟩ := bind_eq_ok_iff.mp he
        cases hrest
    | [v, w], he =>
        obtain ⟨_, -, hrest⟩ := bind_eq_ok_iff.mp he
        obtain ⟨_, -, hrest⟩ := bind_eq_ok_iff.mp hrest
        cases hrest
    | [v, w, data], he =>
        obtain ⟨_, hv, hrest⟩ := bind_eq_ok_iff.mp he
        obtain ⟨_, hw, hrest⟩ := bind_eq_ok_iff.mp hrest
        obtain ⟨_, hdata, hrest⟩ := bind_eq_ok_iff.mp hrest
        obtain ⟨c, hc, rfl⟩ := map_eq_ok_iff.mp hv
        obtain ⟨text, htext, rfl⟩ := map_eq_ok_iff.mp hw
        obtain ⟨_, -, rfl⟩ := map_eq_ok_iff.mp hdata
        obtain rfl := Except.ok.inj hrest
        exact ⟨v, w, data, rfl, hc, htext⟩
    | _ :: _ :: _ :: _ :: _, _ =>
        simp only [List.length_cons] at hlength
        omega
  · rintro ⟨v, w, data, rfl, hc, htext⟩
    obtain ⟨data', hdata⟩ := exists_data data
    refine ⟨{ code, message, data := data' }, ?_, rfl, rfl⟩
    refine bind_eq_ok_iff.mpr ⟨{ code }, map_eq_ok_iff.mpr ⟨code, hc, rfl⟩, ?_⟩
    refine bind_eq_ok_iff.mpr ⟨{ code, message }, map_eq_ok_iff.mpr ⟨message, htext, rfl⟩, ?_⟩
    exact bind_eq_ok_iff.mpr ⟨_, map_eq_ok_iff.mpr ⟨data', hdata, rfl⟩, rfl⟩

/-! ### All values -/

/-- An error is read exactly from what spells one, with the code and the message spelled. -/
theorem readReplyError_ok_iff (h : v.Distinct) :
    (∃ e, readReplyError v = .ok e ∧ e.code = code ∧ e.message = message) ↔
      SpellsError v code message := by
  cases v with
  | object ms =>
      rw [read_members_iff h.nodup]
      exact ⟨fun ⟨hc, htext⟩ => .members hc htext, fun | .members hc htext => ⟨hc, htext⟩⟩
  | array items =>
      rw [read_items_iff]
      constructor
      · rintro ⟨v, w, data, rfl, hc, htext⟩
        exact .items hc htext data
      · exact fun | .items hc htext data => ⟨_, _, data, rfl, hc, htext⟩
  | _ => exact iff_of_false (fun ⟨e, he, _⟩ => nomatch he) nofun

end ConsoleTap.Target
