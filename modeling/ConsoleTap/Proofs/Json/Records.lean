import ConsoleTap.Json.Record
import ConsoleTap.Proofs.Json.Members
import ConsoleTap.Proofs.Results

/-!
# What readers accept

A reader of values answers with what it read or with the first misfit.  Whether it answers
and with what is the same in whatever order it goes through a value; only the misfit depends
on the order.  So readers are compared here by `toOption`, which forgets the misfit.

A record is read from an object member by member.  That amounts to looking each field up by
its name, if the fields have different names, the members have different names, and values
may be put into two fields in either order: `Schema.Lawful.read_object` is the equation from
which follows that neither the order of the members nor members of other names matter.
-/

namespace ConsoleTap.Json

variable {α β R : Type} {v w : Value} {items before after : List Value} {ms : Members}
  {name : String} {m : String × Value} {cause : Mismatch} {r r' : R}

/-! ### Parts are less deep -/

theorem depth_lt_of_mem_items (h : v ∈ items) : v.depth < (Value.array items).depth := by
  rw [Value.depth, Nat.lt_succ_iff]
  induction items with
  | nil => cases h
  | cons w rest ih =>
      rw [depthItems]
      rcases List.mem_cons.mp h with rfl | h
      · exact Nat.le_max_left _ _
      · exact Nat.le_trans (ih h) (Nat.le_max_right _ _)

theorem depth_lt_of_mem_members (h : m ∈ ms) : m.2.depth < (Value.object ms).depth := by
  rw [Value.depth, Nat.lt_succ_iff]
  induction ms with
  | nil => cases h
  | cons m' rest ih =>
      rw [depthMembers]
      rcases List.mem_cons.mp h with rfl | h
      · exact Nat.le_max_left _ _
      · exact Nat.le_trans (ih h) (Nat.le_max_right _ _)

/-! ### Readings without their misfits -/

@[simp] theorem toOption_map (x : Reading α) (f : α → β) :
    (x.map f).toOption = x.toOption.map f := by
  cases x <;> rfl

@[simp] theorem toOption_bind (x : Reading α) (f : α → Reading β) :
    (x >>= f).toOption = x.toOption.bind fun a => (f a).toOption := by
  cases x <;> rfl

theorem toOption_eq_some_iff {x : Reading α} {a : α} : x.toOption = some a ↔ x = .ok a := by
  cases x <;> simp [Except.toOption]

theorem map_eq_ok_iff {x : Reading α} {f : α → β} {b : β} :
    x.map f = .ok b ↔ ∃ a, x = .ok a ∧ f a = b := by
  cases x <;> simp [Except.map]

theorem map_eq_error_iff {x : Reading α} {f : α → β} :
    x.map f = .error cause ↔ x = .error cause := by
  cases x <;> simp [Except.map]

/-! ### Texts and integers -/

/-- The integers that 64 bits hold with a sign. -/
def Is64Bit (n : Int) : Prop := -9223372036854775808 ≤ n ∧ n ≤ 9223372036854775807

theorem readString_ok_iff {s : String} : readString v = .ok s ↔ v = .string s := by
  cases v <;> simp [readString]

theorem readInteger_ok_iff {n : Int} : readInteger v = .ok n ↔ v = .integer n ∧ Is64Bit n := by
  have hpow : Int.pow 2 63 = 9223372036854775808 := by decide
  cases v with
  | integer k =>
      rw [readInteger, Value.integer.injEq, Is64Bit]
      split
      · rw [Except.ok.injEq]
        omega
      · refine iff_of_false nofun ?_
        omega
  | _ => exact iff_of_false nofun nofun

/-! ### Optional values and lists -/

theorem readOption_of_ne_null {read : Value → Reading α} (h : v ≠ .null) :
    readOption read v = (read v).map some := by
  cases v with
  | null => exact absurd rfl h
  | _ => rfl

theorem readOption_congr {read read' : Value → Reading α} (h : v ≠ .null → read v = read' v) :
    readOption read v = readOption read' v := by
  by_cases hv : v = .null
  · rw [hv]
    rfl
  · rw [readOption_of_ne_null hv, readOption_of_ne_null hv, h hv]

theorem mapM_eq_ok_iff {read : Value → Reading α} :
    (∃ xs, items.mapM read = .ok xs) ↔ ∀ v ∈ items, ∃ x, read v = .ok x := by
  induction items with
  | nil => simp [pure, Except.pure]
  | cons v rest ih =>
      rw [List.forall_mem_cons, ← ih]
      simp only [List.mapM_cons, bind_eq_ok_iff]
      constructor
      · rintro ⟨_, x, hx, xs, hxs, -⟩
        exact ⟨⟨x, hx⟩, xs, hxs⟩
      · rintro ⟨⟨x, hx⟩, xs, hxs⟩
        exact ⟨x :: xs, x, hx, xs, hxs, rfl⟩

theorem mapM_congr {read read' : Value → Reading α} (h : ∀ v ∈ items, read v = read' v) :
    items.mapM read = items.mapM read' := by
  induction items with
  | nil => rfl
  | cons v rest ih =>
      rw [List.forall_mem_cons] at h
      rw [List.mapM_cons, List.mapM_cons, h.1, ih h.2]

theorem toOption_mapM_replace {read : Value → Reading α}
    (h : (read v).toOption = (read w).toOption) :
    ((before ++ v :: after).mapM read).toOption = ((before ++ w :: after).mapM read).toOption := by
  simp only [List.mapM_append, List.mapM_cons, toOption_bind, h]

/-! ### Fields -/

namespace Field

variable {f g : Field R}

/-- Values may be put into two fields in either order. -/
def Commute (f g : Field R) : Prop :=
  ∀ v w r, ((f.store v r).toOption.bind fun r => (g.store w r).toOption) =
    (g.store w r).toOption.bind fun r => (f.store v r).toOption

theorem Commute.symm (h : f.Commute g) : g.Commute f := fun v w r => (h w v r).symm

theorem Commute.of_puts {read : Value → Reading α} {read' : Value → Reading β}
    {put : R → α → R} {put' : R → β → R} (hf : ∀ v r, f.store v r = (read v).map (put r))
    (hg : ∀ v r, g.store v r = (read' v).map (put' r))
    (hput : ∀ r x y, put' (put r x) y = put (put' r y) x) : f.Commute g := by
  intro v w r
  simp only [hf, hg, toOption_map]
  cases (read v).toOption with
  | none => cases (read' w).toOption <;> rfl
  | some x =>
      cases (read' w).toOption with
      | none => rfl
      | some y => exact congrArg some (hput r x y)

theorem commute_field {read : Value → Reading α} {read' : Value → Reading β} {put : R → α → R}
    {put' : R → β → R} {name' : String}
    (hput : ∀ r x y, put' (put r x) y = put (put' r y) x) :
    (field name read put).Commute (field name' read' put') :=
  .of_puts (fun _ _ => rfl) (fun _ _ => rfl) hput

/-- Puts the value of a field into a record, if there is one. -/
def fill (f : Field R) (v? : Option Value) (r : R) : Option R :=
  match v? with
  | none => some r
  | some v => (f.store v r).toOption

theorem Commute.fill (h : f.Commute g) (v? w? : Option Value) (r : R) :
    (f.fill v? r).bind (g.fill w?) = (g.fill w? r).bind (f.fill v?) := by
  cases v? with
  | none => exact (Option.bind_fun_some _).symm
  | some v =>
      cases w? with
      | none => exact Option.bind_fun_some _
      | some w => exact h v w r

end Field

/-! ### Schemas -/

namespace Schema

variable {schema schema' : Schema R} {f : Field R} {fields : List (Field R)}

/-- The fields have different names, and their order does not matter. -/
structure Lawful (schema : Schema R) : Prop where
  names : (schema.fields.map Field.name).Nodup
  commute : schema.fields.Pairwise Field.Commute

/-- The field of that name. -/
def field? (schema : Schema R) (name : String) : Option (Field R) :=
  schema.fields.find? fun f => f.name = name

theorem storeMember_of_some (h : schema.field? name = some f) (v : Value) (r : R) :
    schema.storeMember r (name, v) = f.store v r := by
  rw [field?] at h
  simp only [storeMember, h]

theorem storeMember_of_none (h : schema.field? name = none) (v : Value) (r : R) :
    schema.storeMember r (name, v) = .ok r := by
  rw [field?] at h
  simp only [storeMember, h]

theorem field?_eq_none_iff : schema.field? name = none ↔ name ∉ schema.fields.map Field.name := by
  simp [field?]

theorem field?_eq_some (h : schema.field? name = some f) : f ∈ schema.fields ∧ f.name = name := by
  rw [field?] at h
  exact ⟨List.mem_of_find?_eq_some h, by simpa using List.find?_some h⟩

/-! ### What a record is read from -/

theorem storeMembers_from_ok (r : R) (h : ∀ m ∈ ms, ∀ r, ∃ r', schema.storeMember r m = .ok r') :
    ∃ r', ms.foldlM schema.storeMember r = .ok r' := by
  induction ms generalizing r with
  | nil => exact ⟨r, rfl⟩
  | cons m rest ih =>
      rw [List.forall_mem_cons] at h
      obtain ⟨r₁, hm⟩ := h.1 r
      obtain ⟨r₂, hrest⟩ := ih r₁ h.2
      refine ⟨r₂, ?_⟩
      rw [List.foldlM_cons, hm]
      exact hrest

theorem stored_of_members {r' : R} (h : ms.foldlM schema.storeMember r = .ok r') (hm : m ∈ ms) :
    ∃ r₁ r₂, schema.storeMember r₁ m = .ok r₂ := by
  induction ms generalizing r with
  | nil => cases hm
  | cons m' rest ih =>
      rw [List.foldlM_cons, bind_eq_ok_iff] at h
      obtain ⟨r₁, hm', hrest⟩ := h
      rcases List.mem_cons.mp hm with rfl | hm
      · exact ⟨r, r₁, hm'⟩
      · exact ih hrest hm

theorem storeItems_ok {length : Nat} (r : R) (hrequired : ∀ f ∈ fields, f.required = false)
    (hlength : items.length ≤ fields.length)
    (h : ∀ (i : Nat) f v, fields[i]? = some f → items[i]? = some v →
      ∀ r, ∃ r', f.store v r = .ok r') :
    ∃ r', schema.storeItems length fields items r = .ok r' := by
  induction fields generalizing items r with
  | nil =>
      cases items with
      | nil => exact ⟨r, rfl⟩
      | cons v rest => cases hlength
  | cons f fields ih =>
      rw [List.forall_mem_cons] at hrequired
      cases items with
      | nil =>
          rw [storeItems, hrequired.1]
          exact ih r hrequired.2 (Nat.zero_le _) (by simp)
      | cons v rest =>
          obtain ⟨r₁, hv⟩ := h 0 f v rfl rfl r
          rw [storeItems, hv]
          exact ih r₁ hrequired.2 (Nat.le_of_succ_le_succ hlength)
            fun i f' v' hf' hv' => h (i + 1) f' v' hf' hv'

theorem length_le_of_storeItems {length : Nat} {r' : R}
    (h : schema.storeItems length fields items r = .ok r') : items.length ≤ fields.length := by
  induction fields generalizing items r with
  | nil =>
      cases items with
      | nil => exact Nat.le_refl _
      | cons v rest => cases h
  | cons f fields ih =>
      cases items with
      | nil => exact Nat.zero_le _
      | cons v rest =>
          rw [storeItems, bind_eq_ok_iff] at h
          obtain ⟨r₁, -, hrest⟩ := h
          exact Nat.succ_le_succ (ih hrest)

theorem stored_of_items {length i : Nat} {r' : R}
    (h : schema.storeItems length fields items r = .ok r') (hf : fields[i]? = some f)
    (hv : items[i]? = some v) : ∃ r₁ r₂, f.store v r₁ = .ok r₂ := by
  induction fields generalizing items r i with
  | nil => cases hf
  | cons f' fields ih =>
      cases items with
      | nil => cases hv
      | cons v' rest =>
          rw [storeItems, bind_eq_ok_iff] at h
          obtain ⟨r₁, hv', hrest⟩ := h
          cases i with
          | zero =>
              obtain rfl := Option.some.inj hf
              obtain rfl := Option.some.inj hv
              exact ⟨r, r₁, hv'⟩
          | succ i => exact ih hrest hf hv

/-! ### Why a record is not read -/

/-- The misfits of a record in a value: those of its fields in the parts of the value, and those of
    the record itself, which bear its name. -/
inductive Refusal (schema : Schema R) (v : Value) : Mismatch → Prop where
  | part {f : Field R} {w : Value} {r : R} {cause : Mismatch} (hf : f ∈ schema.fields)
      (hdepth : w.depth < v.depth) (h : f.store w r = .error cause) : Refusal schema v cause
  | shape : Refusal schema v (.shape v (.record schema.name))
  | short (position fields : Nat) : Refusal schema v (.tooShort position schema.name fields)
  | long (length : Nat) : Refusal schema v (.tooLong length)

theorem refusal_of_members (h : ms.foldlM schema.storeMember r = .error cause) :
    ∃ m ∈ ms, ∃ f ∈ schema.fields, ∃ r₁, f.store m.2 r₁ = .error cause := by
  induction ms generalizing r with
  | nil => cases h
  | cons m rest ih =>
      rw [List.foldlM_cons, bind_eq_error_iff] at h
      rcases h with hm | ⟨r₁, -, hrest⟩
      · cases hfield : schema.field? m.1 with
        | none =>
            rw [storeMember_of_none hfield] at hm
            cases hm
        | some f =>
            rw [storeMember_of_some hfield] at hm
            exact ⟨m, List.mem_cons_self, f, (field?_eq_some hfield).1, r, hm⟩
      · obtain ⟨m', hm', hstore⟩ := ih hrest
        exact ⟨m', List.mem_cons_of_mem _ hm', hstore⟩

theorem refusal_of_items {length : Nat} (hfields : fields ⊆ schema.fields)
    (hitems : ∀ v ∈ items, v.depth < w.depth)
    (h : schema.storeItems length fields items r = .error cause) : schema.Refusal w cause := by
  induction fields generalizing items r with
  | nil =>
      cases items with
      | nil => cases h
      | cons v rest =>
          obtain rfl := Except.error.inj h
          exact .long length
  | cons f fields ih =>
      rw [List.cons_subset] at hfields
      cases items with
      | nil =>
          rw [storeItems] at h
          split at h
          · obtain rfl := Except.error.inj h
            exact .short _ _
          · exact ih hfields.2 hitems h
      | cons v rest =>
          rw [List.forall_mem_cons] at hitems
          rw [storeItems, bind_eq_error_iff] at h
          rcases h with hv | ⟨r₁, -, hrest⟩
          · exact .part hfields.1 hitems.1 hv
          · exact ih hfields.2 hitems.2 hrest

theorem refusal_of_read (h : schema.read v = .error cause) : schema.Refusal v cause := by
  cases v with
  | object ms =>
      obtain ⟨m, hm, f, hf, r, hstore⟩ := refusal_of_members h
      exact .part hf (depth_lt_of_mem_members hm) hstore
  | array items =>
      exact refusal_of_items (List.Subset.refl _) (fun v hv => depth_lt_of_mem_items hv) h
  | _ =>
      obtain rfl := Except.error.inj h
      exact .shape

/-! ### What reading depends on -/

/-- Fields of the same names that do the same with all values of less depth. -/
def AgreeBelow (depth : Nat) (fields fields' : List (Field R)) : Prop :=
  List.Forall₂ (fun f f' => f.name = f'.name ∧ f.required = f'.required ∧
    ∀ w : Value, w.depth < depth → f.store w = f'.store w) fields fields'

variable {depth : Nat} {fields' : List (Field R)}

theorem storeMember_congr (h : AgreeBelow depth schema.fields schema'.fields)
    (hm : m.2.depth < depth) (r : R) : schema.storeMember r m = schema'.storeMember r m := by
  rw [storeMember, storeMember]
  generalize schema.fields = fields, schema'.fields = fields' at h
  induction h with
  | nil => rfl
  | @cons f f' _ _ hf _ ih =>
      simp only [List.find?_cons, hf.1]
      by_cases hname : f'.name = m.1
      · simp [hname, hf.2.2 m.2 hm]
      · simpa [hname] using ih

theorem storeMembers_congr (h : AgreeBelow depth schema.fields schema'.fields)
    (hms : ∀ m ∈ ms, m.2.depth < depth) (r : R) :
    ms.foldlM schema.storeMember r = ms.foldlM schema'.storeMember r := by
  induction ms generalizing r with
  | nil => rfl
  | cons m rest ih =>
      rw [List.forall_mem_cons] at hms
      rw [List.foldlM_cons, List.foldlM_cons, storeMember_congr h hms.1]
      exact congrArg _ (funext (ih hms.2))

theorem storeItems_congr {length : Nat} (hname : schema.name = schema'.name)
    (hlength : schema.fields.length = schema'.fields.length) (h : AgreeBelow depth fields fields')
    (hitems : ∀ v ∈ items, v.depth < depth) (r : R) :
    schema.storeItems length fields items r = schema'.storeItems length fields' items r := by
  induction h generalizing items r with
  | nil => cases items <;> rfl
  | cons hf hrest ih =>
      cases items with
      | nil =>
          rw [storeItems, storeItems, hf.2.1, hname, hlength, hrest.length_eq, ih hitems r]
      | cons v rest =>
          rw [List.forall_mem_cons] at hitems
          rw [storeItems, storeItems, hf.2.2 v hitems.1]
          exact congrArg _ (funext (ih hitems.2))

/-- Reading depends on the fields only through what they do with the parts of the value. -/
theorem read_congr (hname : schema.name = schema'.name)
    (hdefaults : schema.defaults = schema'.defaults)
    (h : AgreeBelow v.depth schema.fields schema'.fields) : schema.read v = schema'.read v := by
  cases v with
  | object ms =>
      rw [read, read, storeMembers, storeMembers, hdefaults]
      exact storeMembers_congr h (fun m hm => depth_lt_of_mem_members hm) _
  | array items =>
      rw [read, read, hdefaults]
      exact storeItems_congr hname h.length_eq h (fun v hv => depth_lt_of_mem_items hv) _
  | _ => simp only [read, hname]

/-! ### What reading does not depend on -/

/-- Two values that all fields of a name treat alike may stand for each other. -/
theorem toOption_read_replace_member
    (h : ∀ f, schema.field? name = some f → ∀ r, (f.store v r).toOption = (f.store w r).toOption)
    (hunknown : schema.field? name = none → v = w) (before after : Members) :
    (schema.read (.object (before ++ (name, v) :: after))).toOption =
      (schema.read (.object (before ++ (name, w) :: after))).toOption := by
  have hmember : ∀ r, (schema.storeMember r (name, v)).toOption =
      (schema.storeMember r (name, w)).toOption := by
    intro r
    cases hfield : schema.field? name with
    | none => rw [hunknown hfield]
    | some f => rw [storeMember_of_some hfield, storeMember_of_some hfield, h f hfield]
  simp only [read, storeMembers, List.foldlM_append, List.foldlM_cons, toOption_bind, hmember]

theorem toOption_storeItems_replace {length : Nat} {before after : List Value}
    (h : ∀ f, fields[before.length]? = some f →
      ∀ r, (f.store v r).toOption = (f.store w r).toOption) (r : R) :
    (schema.storeItems length fields (before ++ v :: after) r).toOption =
      (schema.storeItems length fields (before ++ w :: after) r).toOption := by
  induction before generalizing fields r with
  | nil =>
      cases fields with
      | nil => rfl
      | cons f fields =>
          simp only [List.nil_append, storeItems, toOption_bind, h f rfl]
  | cons u before ih =>
      cases fields with
      | nil => rfl
      | cons f fields =>
          simp only [List.cons_append, storeItems, toOption_bind]
          exact congrArg _ (funext (ih h))

/-- A member of no field changes nothing. -/
theorem read_add (hname : schema.field? name = none) (ms : Members) (v : Value) :
    schema.read (.object (ms ++ [(name, v)])) = schema.read (.object ms) := by
  simp only [read, storeMembers, List.foldlM_append, List.foldlM_cons, List.foldlM_nil,
    storeMember_of_none hname]
  exact bind_pure _

/-! ### Reading field by field -/

/-- Goes through fields, and puts into each the value of the member of its name. -/
def gather (fields : List (Field R)) (ms : Members) (r : R) : Option R :=
  fields.foldlM (fun r f => f.fill (Members.get? ms f.name) r) r

theorem gather_cons (f : Field R) (fields : List (Field R)) (ms : Members) (r : R) :
    gather (f :: fields) ms r = (f.fill (Members.get? ms f.name) r).bind (gather fields ms) :=
  List.foldlM_cons

theorem gather_append (fields fields' : List (Field R)) (ms : Members) (r : R) :
    gather (fields ++ fields') ms r = (gather fields ms r).bind (gather fields' ms) :=
  List.foldlM_append

theorem gather_nil_members (fields : List (Field R)) (r : R) : gather fields [] r = some r := by
  induction fields with
  | nil => rfl
  | cons f fields ih =>
      rw [gather_cons]
      exact ih

/-- A member counts only for the field of its name. -/
theorem gather_cons_member (h : name ∉ fields.map Field.name) (v : Value) (ms : Members) (r : R) :
    gather fields ((name, v) :: ms) r = gather fields ms r := by
  induction fields generalizing r with
  | nil => rfl
  | cons f fields ih =>
      rw [List.map_cons, List.mem_cons, not_or] at h
      rw [gather_cons, gather_cons, Members.get?, if_neg h.1]
      exact congrArg _ (funext (ih h.2))

/-- A field may be filled before the others instead of after them. -/
theorem gather_fill (h : ∀ g ∈ fields, f.Commute g) (ms : Members) (v? : Option Value) (r : R) :
    (gather fields ms r).bind (f.fill v?) = (f.fill v? r).bind (gather fields ms) := by
  induction fields generalizing r with
  | nil => exact (Option.bind_fun_some _).symm
  | cons g fields ih =>
      rw [List.forall_mem_cons] at h
      calc (gather (g :: fields) ms r).bind (f.fill v?)
          = (g.fill (Members.get? ms g.name) r).bind fun r =>
              (gather fields ms r).bind (f.fill v?) := by rw [gather_cons, Option.bind_assoc]
        _ = (g.fill (Members.get? ms g.name) r).bind fun r =>
              (f.fill v? r).bind (gather fields ms) := congrArg _ (funext (ih h.2))
        _ = ((f.fill v? r).bind (g.fill (Members.get? ms g.name))).bind (gather fields ms) := by
              rw [← Option.bind_assoc, h.1.fill]
        _ = (f.fill v? r).bind (gather (g :: fields) ms) := by
              rw [Option.bind_assoc]
              rfl

/-- The first member is only met at the field of its name, which may as well be filled first. -/
theorem Lawful.gather_cons_field (h : schema.Lawful) (hf : f ∈ schema.fields)
    (hms : Members.get? ms f.name = none) (v : Value) (r : R) :
    gather schema.fields ((f.name, v) :: ms) r =
      (f.fill (some v) r).bind (gather schema.fields ms) := by
  obtain ⟨front, back, hfields⟩ := List.append_of_mem hf
  have hnames := h.names
  rw [hfields, List.map_append, List.map_cons, List.nodup_middle, List.nodup_cons,
    List.mem_append, not_or] at hnames
  obtain ⟨⟨hfront, hback⟩, -⟩ := hnames
  have hcommute := h.commute
  rw [hfields, List.pairwise_append] at hcommute
  have hbefore : ∀ g ∈ front, f.Commute g :=
    fun g hg => (hcommute.2.2 g hg f List.mem_cons_self).symm
  have hmember : ∀ r, gather (f :: back) ((f.name, v) :: ms) r =
      (f.fill (some v) r).bind (gather back ms) := by
    intro r
    rw [gather_cons, Members.get?, if_pos rfl]
    exact congrArg _ (funext fun r => gather_cons_member hback v ms r)
  have hnone : ∀ r, gather (f :: back) ms r = gather back ms r := by
    intro r
    rw [gather_cons, hms]
    rfl
  calc gather schema.fields ((f.name, v) :: ms) r
      = (gather front ms r).bind fun r => (f.fill (some v) r).bind (gather back ms) := by
        rw [hfields, gather_append, gather_cons_member hfront]
        exact congrArg _ (funext hmember)
    _ = ((f.fill (some v) r).bind (gather front ms)).bind (gather back ms) := by
        rw [← Option.bind_assoc, gather_fill hbefore]
    _ = (f.fill (some v) r).bind (gather schema.fields ms) := by
        rw [Option.bind_assoc]
        refine congrArg _ (funext fun r => ?_)
        rw [hfields, gather_append]
        exact congrArg _ (funext fun r => (hnone r).symm)

theorem Lawful.gather_members (h : schema.Lawful) (hms : (ms.map Prod.fst).Nodup) (r : R) :
    (ms.foldlM schema.storeMember r).toOption = gather schema.fields ms r := by
  induction ms generalizing r with
  | nil => exact (gather_nil_members _ _).symm
  | cons m rest ih =>
      obtain ⟨name, v⟩ := m
      rw [List.map_cons, List.nodup_cons] at hms
      rw [List.foldlM_cons, toOption_bind]
      cases hfield : schema.field? name with
      | none =>
          rw [storeMember_of_none hfield, gather_cons_member (field?_eq_none_iff.mp hfield),
            ← ih hms.2]
          rfl
      | some f =>
          rw [storeMember_of_some hfield]
          obtain ⟨hf, rfl⟩ := field?_eq_some hfield
          rw [h.gather_cons_field hf (Members.get?_eq_none_iff.mpr hms.1)]
          exact congrArg _ (funext (ih hms.2))

/-- An object whose members have different names is read by looking up each field. -/
theorem Lawful.read_object (h : schema.Lawful) (hms : (ms.map Prod.fst).Nodup) :
    (schema.read (.object ms)).toOption = gather schema.fields ms schema.defaults :=
  h.gather_members hms schema.defaults

/-- The order of the members does not matter. -/
theorem Lawful.read_perm (h : schema.Lawful) {ms' : Members} (hms : (ms.map Prod.fst).Nodup)
    (hperm : ms.Perm ms') :
    (schema.read (.object ms)).toOption = (schema.read (.object ms')).toOption := by
  rw [h.read_object hms, h.read_object ((hperm.map Prod.fst).nodup_iff.mp hms), gather, gather]
  simp only [Members.get?_perm hms hperm]

end Schema
end ConsoleTap.Json
