import ConsoleTap.Proofs.Target.Events

/-!
# Rearranged members

A target may write the members of a record in any order, and may add members that nobody
here knows.  `Rearranged` says of two values of a form that one can be made from the other
in this way, anywhere in the records inside them, and `RearrangedFrame` says it of two
frames; what stands inside an inline value is left alone, since it is no record.  Each rule
of the two relations is one step, and each step keeps what is read.

The misfit that is reported for an unreadable record is the first one in the order of the
members, so it may change where nothing else does.
-/

namespace ConsoleTap.Target

open ConsoleTap.Json

/-- The second value comes from the first one by putting the members of records into another order
    and by adding members of unknown names.  An object has each name once. -/
inductive Rearranged : Form → Value → Value → Prop where
  | refl (form : Form) (v : Value) : Rearranged form v v
  | trans {form : Form} {u v w : Value} (first : Rearranged form u v)
      (second : Rearranged form v w) : Rearranged form u w
  | permute {kind : RecordKind} {ms ms' : Members} (hnodup : (ms.map Prod.fst).Nodup)
      (hperm : ms.Perm ms') : Rearranged (.record kind) (.object ms) (.object ms')
  | add {kind : RecordKind} (ms : Members) (name : String)
      (hname : name ∉ kind.fields.map Prod.fst) (v : Value) :
      Rearranged (.record kind) (.object ms) (.object (ms ++ [(name, v)]))
  | member (kind : RecordKind) (before : Members) (name : String) (after : Members) {form : Form}
      {v w : Value} (hfield : (name, form) ∈ kind.fields) (h : Rearranged form v w) :
      Rearranged (.record kind) (.object (before ++ (name, v) :: after))
        (.object (before ++ (name, w) :: after))
  | item (kind : RecordKind) (before after : List Value) {name : String} {form : Form}
      {v w : Value} (hfield : kind.fields[before.length]? = some (name, form))
      (h : Rearranged form v w) :
      Rearranged (.record kind) (.array (before ++ v :: after)) (.array (before ++ w :: after))
  | optional {part : Form} {v w : Value} (h : Rearranged part v w) :
      Rearranged (.optional part) v w
  | element (before after : List Value) {part : Form} {v w : Value} (h : Rearranged part v w) :
      Rearranged (.list part) (.array (before ++ v :: after)) (.array (before ++ w :: after))

/-- The second frame comes from the first one by putting the members of the frame or of records
    inside its parameters into another order and by adding members of unknown names.  The parameters
    of what is no event may change altogether. -/
inductive RearrangedFrame : Value → Value → Prop where
  | refl (frame : Value) : RearrangedFrame frame frame
  | trans {f g h : Value} (first : RearrangedFrame f g) (second : RearrangedFrame g h) :
      RearrangedFrame f h
  | permute {ms ms' : Members} (hnodup : (ms.map Prod.fst).Nodup) (hperm : ms.Perm ms') :
      RearrangedFrame (.object ms) (.object ms')
  | add (ms : Members) (name : String) (hname : name ∉ ["method", "params", "id"]) (v : Value) :
      RearrangedFrame (.object ms) (.object (ms ++ [(name, v)]))
  | params (event : EventKind) (before after : Members) {v w : Value}
      (hevent : IsEventOf (.object (before ++ ("params", v) :: after)) event)
      (h : Rearranged (.record event.record) v w) :
      RearrangedFrame (.object (before ++ ("params", v) :: after))
        (.object (before ++ ("params", w) :: after))
  | otherParams (before after : Members) {v : Value}
      (hother : ∀ event, ¬ IsEventOf (.object (before ++ ("params", v) :: after)) event)
      (w : Value) :
      RearrangedFrame (.object (before ++ ("params", v) :: after))
        (.object (before ++ ("params", w) :: after))

variable {form : Form} {kind : RecordKind} {frame frame' v w : Value}
  {ms ms' before after : Members} {name : String}

/-! ### Values -/

theorem HasForm.toOption_store {R : Type} {f : Json.Field R} (h : HasForm (name, form) f)
    (hread : (form.read v).toOption = (form.read w).toOption) (r : R) :
    (f.store v r).toOption = (f.store w r).toOption := by
  obtain ⟨put, hput⟩ := h.store
  rw [hput, hput, toOption_map, toOption_map, hread]

theorem Rearranged.null_iff (h : Rearranged form v w) : v = .null ↔ w = .null := by
  induction h with
  | refl form v => exact Iff.rfl
  | trans _ _ ihFirst ihSecond => exact ihFirst.trans ihSecond
  | optional _ ih => exact ih
  | _ => exact iff_of_false nofun nofun

/-- Rearranged values are read into the same, or neither is read. -/
theorem Rearranged.toOption_read (h : Rearranged form v w) :
    (form.read v).toOption = (form.read w).toOption := by
  induction h with
  | refl form v => rfl
  | trans _ _ ihFirst ihSecond => exact ihFirst.trans ihSecond
  | @permute kind ms ms' hnodup hperm =>
      rw [Form.read, kind.read_eq, kind.read_eq]
      exact kind.lawful.read_perm hnodup hperm
  | @add kind ms name hname v =>
      rw [Form.read, kind.read_eq, kind.read_eq,
        Schema.read_add (RecordKind.field?_eq_none_iff.mpr hname)]
  | member kind before name after hfield _ ih =>
      rw [Form.read, kind.read_eq, kind.read_eq]
      refine Schema.toOption_read_replace_member ?_ ?_ before after
      · -- the form of the member is the one by which its field reads it
        intro f hf r
        obtain ⟨hmem, rfl⟩ := Schema.field?_eq_some hf
        obtain ⟨form', hfield', hform⟩ := RecordKind.exists_form hmem
        obtain rfl := RecordKind.form_unique hfield hfield'
        exact hform.toOption_store ih r
      · intro hnone
        exact absurd (List.mem_map_of_mem hfield) (RecordKind.field?_eq_none_iff.mp hnone)
  | item kind before after hfield _ ih =>
      rw [Form.read, kind.read_eq, kind.read_eq, Schema.read, Schema.read, List.length_append,
        List.length_append]
      refine Schema.toOption_storeItems_replace (fun f hf r => ?_) _
      obtain ⟨g, hg, hform⟩ := RecordKind.exists_field_at hfield
      obtain rfl := Option.some.inj (hf.symm.trans hg)
      exact hform.toOption_store ih r
  | @optional part v w hpart ih =>
      by_cases hnull : v = .null
      · rw [hnull, hpart.null_iff.mp hnull]
      · have hnull' : w ≠ .null := fun heq => hnull (hpart.null_iff.mpr heq)
        rw [Form.read, readOption_of_ne_null hnull, readOption_of_ne_null hnull', toOption_map,
          toOption_map, ih]
  | element before after _ ih => exact toOption_mapM_replace ih

/-! ### Frames -/

/-- Frames that have the same method and id, and parameters that are read into the same if they are
    events, are recognised as the same. -/
theorem toOption_ofFrame_congr
    (hmethod : Members.get? ms "method" = Members.get? ms' "method")
    (hid : Members.get? ms "id" = Members.get? ms' "id")
    (hparams : ∀ event, IsEventOf (.object ms) event →
      (event.record.read (eventParams ms)).toOption =
        (event.record.read (eventParams ms')).toOption) :
    (Unsolicited.ofFrame (.object ms)).toOption = (Unsolicited.ofFrame (.object ms')).toOption := by
  by_cases hevent : ∃ event, IsEventOf (.object ms) event
  · obtain ⟨event, hevent⟩ := hevent
    have hevent' : IsEventOf (.object ms') event := hmethod.symm.trans hevent
    rw [ofFrame_of_event hevent, ofFrame_of_event hevent', toOption_map, toOption_map,
      hparams event hevent]
  · rw [not_exists] at hevent
    unfold Unsolicited.ofFrame
    simp only [← hmethod, ← hid]
    split
    · rename_i method hstring
      obtain ⟨hcall, hthrown, hadded⟩ := ne_of_no_event hevent hstring
      rw [if_neg hcall, if_neg hthrown, if_neg hadded, if_neg hcall, if_neg hthrown, if_neg hadded]
    · rfl

/-- A member counts only for who looks up its name. -/
theorem get?_replace_of_ne {other : String} (h : name ≠ other) (before after : Members)
    (v w : Value) :
    Members.get? (before ++ (name, v) :: after) other =
      Members.get? (before ++ (name, w) :: after) other := by
  rw [Members.get?_append, Members.get?_append, Members.get?, Members.get?, if_neg h, if_neg h]

theorem get?_add_of_ne {other : String} (h : name ≠ other) (ms : Members) (v : Value) :
    Members.get? (ms ++ [(name, v)]) other = Members.get? ms other := by
  rw [Members.get?_append, Members.get?, if_neg h]
  exact Option.or_none

theorem eventParams_congr (h : Members.get? ms "params" = Members.get? ms' "params") :
    eventParams ms = eventParams ms' := by
  rw [eventParams, eventParams, h]

/-- Rearranged parameters are read into the same, or neither are read. -/
theorem Rearranged.toOption_read_params (h : Rearranged (.record kind) v w)
    (before after : Members) :
    (kind.read (eventParams (before ++ ("params", v) :: after))).toOption =
      (kind.read (eventParams (before ++ ("params", w) :: after))).toOption := by
  have hget (u : Value) : Members.get? (before ++ ("params", u) :: after) "params" =
      (Members.get? before "params").or (some u) := by
    rw [Members.get?_append, Members.get?, if_pos rfl]
  cases hbefore : Members.get? before "params" with
  | some u =>
      simp only [hbefore, Option.some_or] at hget
      rw [eventParams_congr ((hget v).trans (hget w).symm)]
  | none =>
      simp only [hbefore, Option.none_or] at hget
      by_cases hnull : v = .null
      · rw [hnull, h.null_iff.mp hnull]
      · have hnull' : w ≠ .null := fun heq => hnull (h.null_iff.mpr heq)
        rw [eventParams_of_some (hget v) hnull, eventParams_of_some (hget w) hnull']
        exact h.toOption_read

/-- Rearranged frames are recognised as the same, or neither is recognised. -/
theorem RearrangedFrame.toOption_ofFrame (h : RearrangedFrame frame frame') :
    (Unsolicited.ofFrame frame).toOption = (Unsolicited.ofFrame frame').toOption := by
  induction h with
  | refl frame => rfl
  | trans _ _ ihFirst ihSecond => exact ihFirst.trans ihSecond
  | @permute ms ms' hnodup hperm =>
      have hget := fun name => (Members.get?_perm hnodup hperm name).symm
      refine toOption_ofFrame_congr (hget _) (hget _) fun event _ => ?_
      rw [eventParams_congr (hget _)]
  | add ms name hname v =>
      simp only [List.mem_cons, List.not_mem_nil, or_false, not_or] at hname
      obtain ⟨hmethod, hparams, hid⟩ := hname
      refine toOption_ofFrame_congr (get?_add_of_ne hmethod ms v).symm
        (get?_add_of_ne hid ms v).symm fun event _ => ?_
      rw [eventParams_congr (get?_add_of_ne hparams ms v)]
  | @params event before after v w hevent hparams =>
      refine toOption_ofFrame_congr (get?_replace_of_ne (by decide) before after v w)
        (get?_replace_of_ne (by decide) before after v w) fun event' hevent' => ?_
      have heq : event' = event := by
        have hmethod := Value.string.inj (Option.some.inj (hevent'.symm.trans hevent))
        revert hmethod
        cases event' <;> cases event <;> decide
      subst heq
      exact hparams.toOption_read_params before after
  | @otherParams before after v hother w =>
      exact toOption_ofFrame_congr (get?_replace_of_ne (by decide) before after v w)
        (get?_replace_of_ne (by decide) before after v w)
        fun event hevent => absurd hevent (hother event)

end ConsoleTap.Target
