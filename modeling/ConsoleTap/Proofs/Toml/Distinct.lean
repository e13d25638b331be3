import ConsoleTap.Toml.Document

/-!
# Tables without repeated names

A document refuses to define a name of a table twice, so a table that was read has each name
once, wherever its entries stand: in a section of its own, behind dotted keys or in braces.
`Value.Distinct` says so of a value and of everything inside it.  Tables in the making have
the same property (`Item.Distinct`), which each change at the end of a path keeps.
-/

namespace ConsoleTap.Toml

/-- Every table in the value has each name once. -/
inductive Value.Distinct : Value → Prop where
  | string (s : String) : Distinct (.string s)
  | integer (n : Int) : Distinct (.integer n)
  | real (written : String) : Distinct (.real written)
  | boolean (b : Bool) : Distinct (.boolean b)
  | moment (written : String) : Distinct (.moment written)
  | array {items : List Value} (h : ∀ v ∈ items, v.Distinct) : Distinct (.array items)
  | table {entries : List (String × Value)} (hnodup : (entries.map Prod.fst).Nodup)
      (h : ∀ e ∈ entries, e.2.Distinct) : Distinct (.table entries)

theorem Value.Distinct.nodup {entries : List (String × Value)}
    (h : (Value.table entries).Distinct) : (entries.map Prod.fst).Nodup := by
  cases h with
  | table hnodup _ => exact hnodup

/-- Every table in what a name stands for has each name once. -/
inductive Item.Distinct : Item → Prop where
  | value {v : Value} (h : v.Distinct) : Distinct (.value v)
  | table {origin : Origin} {entries : List (String × Item)}
      (hnodup : (entries.map Prod.fst).Nodup) (h : ∀ e ∈ entries, e.2.Distinct) :
      Distinct (.table origin entries)
  | tables {elements : List (List (String × Item))}
      (hnodup : ∀ entries ∈ elements, (entries.map Prod.fst).Nodup)
      (h : ∀ entries ∈ elements, ∀ e ∈ entries, e.2.Distinct) : Distinct (.tables elements)

/-! ### Tables in the making -/

namespace Table

/-- The table has each name once, and so has every table in it. -/
structure Distinct (t : Table) : Prop where
  nodup : (t.map Prod.fst).Nodup
  items : ∀ e ∈ t, e.2.Distinct

variable {t t' : Table} {name : String} {item : Item} {path : List String} {origin : Origin}
  {dotted : Bool} {v : Value}

theorem distinct_nil : Distinct [] := ⟨List.nodup_nil, nofun⟩

theorem mem_of_get? (h : t.get? name = some item) : (name, item) ∈ t := by
  obtain ⟨before, after, rfl, -⟩ := List.lookup_eq_some_iff.mp h
  simp

theorem names_set : (t.set name item).map Prod.fst =
    if name ∈ t.map Prod.fst then t.map Prod.fst else t.map Prod.fst ++ [name] := by
  induction t with
  | nil => rfl
  | cons e t ih =>
      obtain ⟨other, old⟩ := e
      rw [set]
      by_cases h : other = name
      · simp [h]
      · rw [if_neg h, List.map_cons, ih, List.map_cons]
        by_cases hmem : name ∈ t.map Prod.fst
        · rw [if_pos hmem, if_pos (List.mem_cons_of_mem _ hmem)]
        · rw [if_neg hmem, if_neg (by simpa [Ne.symm h] using hmem), List.cons_append]

theorem mem_set {e : String × Item} (h : e ∈ t.set name item) : e ∈ t ∨ e = (name, item) := by
  induction t with
  | nil => exact Or.inr (List.mem_singleton.mp h)
  | cons first t ih =>
      obtain ⟨other, old⟩ := first
      rw [set] at h
      split at h
      · subst other
        rcases List.mem_cons.mp h with h | h
        · exact Or.inr h
        · exact Or.inl (List.mem_cons_of_mem _ h)
      · rcases List.mem_cons.mp h with h | h
        · exact Or.inl (h ▸ List.mem_cons_self)
        · exact (ih h).imp_left (List.mem_cons_of_mem _)

theorem Distinct.set (ht : t.Distinct) (hitem : item.Distinct) : (t.set name item).Distinct := by
  constructor
  · rw [names_set]
    split
    · exact ht.nodup
    · rename_i hmem
      apply List.nodup_append.mpr
      refine ⟨ht.nodup, List.pairwise_singleton _ _, ?_⟩
      intro a ha b hb hab
      exact hmem (List.mem_singleton.mp hb ▸ hab ▸ ha)
  · intro e he
    rcases mem_set he with he | rfl
    · exact ht.items e he
    · exact hitem

theorem Distinct.get? (ht : t.Distinct) (h : t.get? name = some item) : item.Distinct :=
  ht.items _ (mem_of_get? h)

/-- A table that lies in an array of tables. -/
theorem distinct_of_mem_tables {elements : List (List (String × Item))}
    (h : (Item.tables elements).Distinct) (hmem : t ∈ elements) : t.Distinct := by
  cases h with
  | tables hnodup h => exact ⟨hnodup t hmem, h t hmem⟩

theorem distinct_tables {elements : List (List (String × Item))}
    (h : ∀ entries ∈ elements, Distinct entries) : (Item.tables elements).Distinct :=
  .tables (fun entries hmem => (h entries hmem).nodup) fun entries hmem => (h entries hmem).items

theorem distinct_of_table (h : (Item.table origin t).Distinct) : t.Distinct := by
  cases h with
  | table hnodup h => exact ⟨hnodup, h⟩

theorem Distinct.table (h : t.Distinct) : (Item.table origin t).Distinct := .table h.nodup h.items

/-- A change at the end of a path keeps the names distinct if it does so where it takes place. -/
theorem Distinct.change {f : Origin → Table → Option Table}
    (hf : ∀ {origin : Origin} {t t' : Table}, t.Distinct → f origin t = some t' → t'.Distinct)
    (ht : t.Distinct) (h : Table.change dotted f path origin t = some t') : t'.Distinct := by
  induction path generalizing origin t t' with
  | nil => exact hf ht h
  | cons name path ih =>
      rw [Table.change] at h
      split at h
      · obtain ⟨sub, hsub, rfl⟩ := Option.map_eq_some_iff.mp h
        exact ht.set (ih distinct_nil hsub).table
      · cases h
      · rename_i elements hget
        split at h
        · cases h
        · rename_i last hlast
          obtain ⟨last', hlast', rfl⟩ := Option.map_eq_some_iff.mp h
          have helements := ht.get? hget
          have hmem : last ∈ elements := List.mem_of_getLast? hlast
          apply ht.set
          apply distinct_tables
          intro entries hentries
          rcases List.mem_append.mp hentries with hentries | hentries
          · exact distinct_of_mem_tables helements ((List.dropLast_sublist _).mem hentries)
          · rw [List.mem_singleton.mp hentries]
            exact ih (distinct_of_mem_tables helements hmem) hlast'
      · rename_i sub hget
        split at h
        · cases h
        · obtain ⟨sub', hsub, rfl⟩ := Option.map_eq_some_iff.mp h
          exact ht.set (ih (distinct_of_table (ht.get? hget)) hsub).table

theorem Distinct.assign (ht : t.Distinct) (hv : v.Distinct)
    (h : t.assign path name v = some t') : t'.Distinct := by
  refine Distinct.change ?_ ht h
  intro origin t t' ht h
  split at h
  · cases h
  · split at h
    · cases h
    · cases h
      exact ht.set (.value hv)

theorem Distinct.openTable (ht : t.Distinct) (h : t.openTable path name = some t') :
    t'.Distinct := by
  refine Distinct.change ?_ ht h
  intro origin t t' ht h
  split at h
  · cases h
    exact ht.set distinct_nil.table
  · rename_i hget
    cases h
    exact ht.set (distinct_of_table (ht.get? hget)).table
  · cases h

theorem Distinct.openElement (ht : t.Distinct) (h : t.openElement path name = some t') :
    t'.Distinct := by
  refine Distinct.change ?_ ht h
  intro origin t t' ht h
  split at h
  · cases h
    apply ht.set
    apply distinct_tables
    intro entries hentries
    exact List.mem_singleton.mp hentries ▸ distinct_nil
  · rename_i elements hget
    cases h
    apply ht.set
    apply distinct_tables
    intro entries hentries
    rcases List.mem_append.mp hentries with hentries | hentries
    · exact distinct_of_mem_tables (ht.get? hget) hentries
    · exact List.mem_singleton.mp hentries ▸ distinct_nil
  · cases h

end Table

/-! ### Finished tables -/

theorem entriesToValues_eq (entries : List (String × Item)) :
    entriesToValues entries = entries.map fun e => (e.1, e.2.toValue) := by
  induction entries with
  | nil => rfl
  | cons e entries ih => rw [entriesToValues, ih, List.map_cons]

theorem elementsToValues_eq (elements : List (List (String × Item))) :
    elementsToValues elements = elements.map fun entries => .table (entriesToValues entries) := by
  induction elements with
  | nil => rfl
  | cons entries elements ih => rw [elementsToValues, ih, List.map_cons]

theorem distinct_entriesToValues {entries : List (String × Item)}
    (hnodup : (entries.map Prod.fst).Nodup) (h : ∀ e ∈ entries, e.2.toValue.Distinct) :
    (Value.table (entriesToValues entries)).Distinct := by
  rw [entriesToValues_eq]
  constructor
  · rw [List.map_map]
    exact hnodup
  · intro e he
    obtain ⟨e, hmem, rfl⟩ := List.mem_map.mp he
    exact h e hmem

theorem Item.Distinct.toValue {item : Item} (h : item.Distinct) : item.toValue.Distinct := by
  induction h with
  | value h => exact h
  | table hnodup _ ih => exact distinct_entriesToValues hnodup ih
  | tables hnodup _ ih =>
      rw [Item.toValue, elementsToValues_eq]
      constructor
      intro v hv
      obtain ⟨entries, hmem, rfl⟩ := List.mem_map.mp hv
      exact distinct_entriesToValues (hnodup entries hmem) (ih entries hmem)

theorem Table.Distinct.toValue {t : Table} (h : t.Distinct) : t.toValue.Distinct :=
  distinct_entriesToValues h.nodup fun e he => (h.items e he).toValue

/-! ### What a reader yields -/

/-- Whatever the reader yields has distinct names. -/
def Yields (x : Option (Value × List Char)) : Prop := ∀ v rest, x = some (v, rest) → v.Distinct

variable {item : List Char → Option (Value × List Char)} {s : List Char}

theorem yields_none : Yields none := nofun

theorem yields_some {v : Value} {rest : List Char} (h : v.Distinct) : Yields (some (v, rest)) := by
  intro v' rest' heq
  cases heq
  exact h

theorem yields_map {α : Type} {f : α → Value × List Char} (x : Option α)
    (h : ∀ a, (f a).1.Distinct) : Yields (x.map f) := by
  cases x with
  | none => exact yields_none
  | some a => exact yields_some (h a)

theorem yields_or {x y : Option (Value × List Char)} (hx : Yields x) (hy : Yields y) :
    Yields (x.or y) := by
  cases x with
  | none => exact hy
  | some a => exact hx

theorem yields_moment? (s : List Char) : Yields (moment? s) := by
  unfold moment?
  split
  · exact yields_some (.moment _)
  · exact yields_map _ fun _ => .moment _

theorem yields_decimalReal? (s : List Char) : Yields (decimalReal? s) := by
  intro v rest h
  simp only [decimalReal?, bind, Option.bind_eq_some_iff] at h
  obtain ⟨_, -, _, -, _, -, h⟩ := h
  split at h
  · cases h
  · split at h
    · cases h
      exact .real _
    · cases h

theorem yields_wordReal? (s : List Char) : Yields (wordReal? s) := by
  unfold wordReal?
  split
  · exact yields_some (.real _)
  · exact yields_some (.real _)
  · exact yields_none

theorem yields_guard {v : Value} {rest : List Char} (c : Prop) [Decidable c] (h : v.Distinct) :
    Yields (if c then some (v, rest) else none) := by
  split
  · exact yields_some h
  · exact yields_none

theorem yields_markedInteger? (base : Nat) (s : List Char) : Yields (markedInteger? base s) := by
  unfold markedInteger?
  split
  · exact yields_none
  · exact yields_guard _ (.integer _)

theorem yields_integer? (s : List Char) : Yields (integer? s) := by
  unfold integer?
  split
  · exact yields_markedInteger? _ _
  · exact yields_markedInteger? _ _
  · exact yields_markedInteger? _ _
  · simp only
    split
    · exact yields_none
    · exact yields_guard _ (.integer _)

theorem yields_number? (s : List Char) : Yields (number? s) :=
  yields_or (yields_moment? s) (yields_or (yields_decimalReal? s)
    (yields_or (yields_wordReal? s) (yields_integer? s)))

/-! ### Arrays and inline tables -/

theorem yields_itemsWith (hitem : ∀ s, Yields (item s)) (fuel : Nat) {done : List Value}
    (hdone : ∀ v ∈ done, v.Distinct) (s : List Char) : Yields (itemsWith item fuel done s) := by
  induction fuel generalizing done s with
  | zero => exact yields_none
  | succ fuel ih =>
      unfold itemsWith
      split
      · exact yields_some (.array fun v hv => hdone v (List.mem_reverse.mp hv))
      · split
        · exact yields_none
        · rename_i v rest hread
          have hmore : ∀ u ∈ v :: done, u.Distinct :=
            List.forall_mem_cons.mpr ⟨hitem _ v rest hread, hdone⟩
          split
          · exact ih hmore _
          · exact yields_some (.array fun u hu => hmore u (List.mem_reverse.mp hu))
          · exact yields_none

theorem distinct_of_assignmentWith (hitem : ∀ s, Yields (item s)) {key : Key} {v : Value}
    {rest : List Char} (h : assignmentWith item s = some ((key, v), rest)) : v.Distinct := by
  simp only [assignmentWith, bind, Option.bind_eq_some_iff] at h
  obtain ⟨_, -, _, -, ⟨v', rest'⟩, hread, h⟩ := h
  cases h
  exact hitem _ _ _ hread

theorem yields_entriesWith (hitem : ∀ s, Yields (item s)) (fuel : Nat) {done : Table}
    (hdone : done.Distinct) (s : List Char) : Yields (entriesWith item fuel done s) := by
  induction fuel generalizing done s with
  | zero => exact yields_none
  | succ fuel ih =>
      unfold entriesWith
      split
      · exact yields_none
      · rename_i key v rest hread
        split
        · exact yields_none
        · rename_i done' hassign
          have hmore := hdone.assign (distinct_of_assignmentWith hitem hread) hassign
          split
          · exact ih hmore _
          · exact yields_some hmore.toValue
          · exact yields_none

theorem yields_inlineTableWith (hitem : ∀ s, Yields (item s)) (s : List Char) :
    Yields (inlineTableWith item s) := by
  unfold inlineTableWith
  split
  · exact yields_some (.table List.nodup_nil nofun)
  · exact yields_entriesWith hitem _ Table.distinct_nil _

/-- By induction on how deep arrays and inline tables may stand inside one another. -/
theorem yields_value? (nesting : Nat) (s : List Char) : Yields (value? nesting s) := by
  induction nesting generalizing s with
  | zero =>
      unfold value?
      split
      · exact yields_none
      split
      · exact yields_map _ fun _ => .string _
      split
      · exact yields_none
      split
      · exact yields_none
      split
      · exact yields_number? _
      split
      · exact yields_some (.boolean true)
      · exact yields_some (.boolean false)
      · exact yields_wordReal? _
  | succ nesting ih =>
      unfold value?
      split
      · exact yields_none
      split
      · exact yields_map _ fun _ => .string _
      split
      · exact yields_itemsWith ih _ (List.forall_mem_nil _) _
      split
      · exact yields_inlineTableWith ih _
      split
      · exact yields_number? _
      split
      · exact yields_some (.boolean true)
      · exact yields_some (.boolean false)
      · exact yields_wordReal? _

/-! ### Documents -/

/-- What the statement assigns, if it is an assignment, has distinct names. -/
def Statement.Distinct : Statement → Prop
  | .assignment _ v => v.Distinct
  | _ => True

theorem distinct_of_statement? {statement : Statement} {rest : List Char}
    (h : statement? s = some (statement, rest)) : statement.Distinct := by
  unfold statement? at h
  split at h
  · simp only [bind, Option.bind_eq_some_iff] at h
    obtain ⟨_, -, _, -, _, -, h⟩ := h
    cases h
    trivial
  · simp only [bind, Option.bind_eq_some_iff] at h
    obtain ⟨_, -, _, -, _, -, h⟩ := h
    cases h
    trivial
  · simp only [bind, Option.bind_eq_some_iff] at h
    obtain ⟨⟨⟨key, v⟩, rest'⟩, hread, _, -, h⟩ := h
    cases h
    exact distinct_of_assignmentWith (yields_value? maxNesting) hread

theorem distinct_of_statements? {fuel : Nat} {lines : List Statement}
    (h : statements? fuel s = some lines) : ∀ statement ∈ lines, statement.Distinct := by
  induction fuel generalizing s lines with
  | zero => cases h
  | succ fuel ih =>
      unfold statements? at h
      split at h
      · cases h
        exact List.forall_mem_nil _
      · split at h
        · exact ih h
        · split at h
          · rename_i statement rest hread
            obtain ⟨more, hmore, rfl⟩ := Option.map_eq_some_iff.mp h
            exact List.forall_mem_cons.mpr ⟨distinct_of_statement? hread, ih hmore⟩
          · cases h

theorem Document.distinct_of_perform {d d' : Document} {statement : Statement}
    (hd : d.root.Distinct) (hstatement : statement.Distinct)
    (h : d.perform statement = some d') : d'.root.Distinct := by
  cases statement with
  | assignment key v =>
      obtain ⟨root, hroot, rfl⟩ := Option.map_eq_some_iff.mp h
      exact hd.change (fun ht h => ht.assign hstatement h) hroot
  | header key =>
      obtain ⟨root, hroot, rfl⟩ := Option.map_eq_some_iff.mp h
      exact hd.openTable hroot
  | elementHeader key =>
      obtain ⟨root, hroot, rfl⟩ := Option.map_eq_some_iff.mp h
      exact hd.openElement hroot

theorem Document.distinct_of_foldlM {d d' : Document} {lines : List Statement}
    (hd : d.root.Distinct) (hlines : ∀ statement ∈ lines, statement.Distinct)
    (h : lines.foldlM perform d = some d') : d'.root.Distinct := by
  induction lines generalizing d with
  | nil =>
      cases h
      exact hd
  | cons statement lines ih =>
      rw [List.foldlM_cons] at h
      obtain ⟨next, hnext, h⟩ := Option.bind_eq_some_iff.mp h
      obtain ⟨hstatement, hlines⟩ := List.forall_mem_cons.mp hlines
      exact ih (distinct_of_perform hd hstatement hnext) hlines h

/-- A document that was read has each name of a table once. -/
theorem Document.distinct_of_read? {text : String} {doc : Value} (h : read? text = some doc) :
    doc.Distinct := by
  simp only [read?, bind, Option.bind_eq_some_iff] at h
  obtain ⟨lines, hlines, d, hd, h⟩ := h
  cases h
  exact (distinct_of_foldlM Table.distinct_nil (distinct_of_statements? hlines) hd).toValue

end ConsoleTap.Toml
