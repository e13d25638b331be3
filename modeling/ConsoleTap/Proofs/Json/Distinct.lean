import ConsoleTap.Json.Reader
import ConsoleTap.Proofs.Json.Members

/-!
# Objects without repeated names

An object that was read from a text has each name once, however often the text repeats it,
because repeated names are merged as they are read.  `Value.Distinct` says so of a value and
of everything inside it.  Every reader keeps it, from the numerals up to the whole text.
-/

namespace ConsoleTap.Json

/-- Every object in the value has each name once. -/
inductive Value.Distinct : Value → Prop where
  | null : Distinct .null
  | bool (b : Bool) : Distinct (.bool b)
  | integer (n : Int) : Distinct (.integer n)
  | real (x : Number.Binary64) : Distinct (.real x)
  | string (s : String) : Distinct (.string s)
  | array {items : List Value} (h : ∀ v ∈ items, v.Distinct) : Distinct (.array items)
  | object {ms : Members} (hnodup : (ms.map Prod.fst).Nodup) (h : ∀ m ∈ ms, m.2.Distinct) :
      Distinct (.object ms)

theorem Value.Distinct.get? {u v : Value} {name : String} (h : u.Distinct)
    (hget : u.get? name = some v) : v.Distinct := by
  cases h with
  | object _ h => exact h _ (Members.mem_of_get? hget)
  | _ => cases hget

theorem Value.Distinct.nodup {ms : Members} (h : (Value.object ms).Distinct) :
    (ms.map Prod.fst).Nodup := by
  cases h with
  | object hnodup _ => exact hnodup

/-! ### What a reader yields -/

/-- Whatever the reader yields has the property. -/
def Yields {α : Type} (P : α → Prop) (x : Except Stop (α × List Char)) : Prop :=
  ∀ a rest, x = .ok (a, rest) → P a

variable {α β : Type} {P : α → Prop} {Q : β → Prop}
  {item : List Char → Except Stop (Value × List Char)}

theorem yields_ok {a : α} {rest : List Char} (h : P a) : Yields P (.ok (a, rest)) := by
  rintro _ _ heq
  obtain ⟨rfl, -⟩ := Prod.mk.inj (Except.ok.inj heq)
  exact h

theorem yields_error (stop : Stop) : Yields P (.error stop) := nofun

theorem Yields.bind {x : Except Stop (α × List Char)}
    {f : α × List Char → Except Stop (β × List Char)} (hx : Yields P x)
    (hf : ∀ a rest, P a → Yields Q (f (a, rest))) : Yields Q (x >>= f) := by
  cases x with
  | error stop => exact yields_error stop
  | ok y => exact hf y.1 y.2 (hx _ _ rfl)

theorem yields_of_true (x : Except Stop (α × List Char)) : Yields (fun _ => True) x :=
  fun _ _ _ => trivial

/-! ### Words and numerals -/

theorem yields_word {v : Value} (hv : v.Distinct) (expected s : List Char) :
    Yields Value.Distinct (word v expected s) := by
  induction expected generalizing s with
  | nil => exact yields_ok hv
  | cons e expected ih =>
      cases s with
      | nil => exact yields_error _
      | cons c s =>
          rw [word]
          split
          · exact ih s
          · exact yields_error _

theorem yields_finishReal (negative : Bool) (significand : Nat) (exponent : Int)
    (unread : List Char) :
    Yields Value.Distinct (finishReal negative significand exponent unread) := by
  unfold finishReal
  split
  · exact yields_ok (.real _)
  · exact yields_error _

theorem yields_exponentPart (negative : Bool) (significand : Nat) (start : Int) (s : List Char) :
    Yields Value.Distinct (exponentPart negative significand start s) := by
  unfold exponentPart
  split
  rename_i down s' _
  cases s' with
  | nil => exact yields_error _
  | cons c rest =>
      simp only
      split
      · exact yields_error _
      · split
        · split
          · split
            · exact yields_error _
            · exact yields_ok (.real _)
          · exact yields_finishReal _ _ _ _
        · exact yields_finishReal _ _ _ _

theorem yields_exponentOrEnd (negative : Bool) (significand : Nat) (exponent : Int)
    (s : List Char) : Yields Value.Distinct (exponentOrEnd negative significand exponent s) := by
  unfold exponentOrEnd
  split
  · exact yields_exponentPart _ _ _ _
  · exact yields_exponentPart _ _ _ _
  · exact yields_finishReal _ _ _ _

theorem yields_fractionPart (negative : Bool) (significand : Nat) (start : Int) (s : List Char) :
    Yields Value.Distinct (fractionPart negative significand start s) := by
  unfold fractionPart
  simp only
  split
  · exact yields_exponentOrEnd _ _ _ _
  · split
    · split <;> exact yields_error _
    · exact yields_exponentOrEnd _ _ _ _

theorem yields_afterInteger (negative : Bool) (significand : Nat) (s : List Char) :
    Yields Value.Distinct (afterInteger negative significand s) := by
  unfold afterInteger
  split
  · exact yields_fractionPart _ _ _ _
  · exact yields_exponentPart _ _ _ _
  · exact yields_exponentPart _ _ _ _
  · split
    · exact yields_ok (.integer _)
    · split
      · exact yields_finishReal _ _ _ _
      · exact yields_ok (.integer _)

theorem yields_numeral (negative : Bool) (s : List Char) :
    Yields Value.Distinct (numeral negative s) := by
  unfold numeral
  split
  · exact yields_error _
  · split
    · split
      · exact yields_error _
      · exact yields_afterInteger _ _ _
    · split
      · exact yields_error _
      · simp only
        split
        · split
          · exact yields_fractionPart _ _ _ _
          · exact yields_exponentOrEnd _ _ _ _
        · exact yields_afterInteger _ _ _

/-! ### Arrays and objects -/

theorem yields_itemsWith (hitem : ∀ s, Yields Value.Distinct (item s)) (fuel : Nat)
    {done : List Value} (hdone : ∀ v ∈ done, v.Distinct) (s : List Char) :
    Yields (fun items => ∀ v ∈ items, v.Distinct) (itemsWith item fuel done s) := by
  induction fuel generalizing done s with
  | zero => exact yields_error _
  | succ fuel ih =>
      refine (hitem s).bind fun v rest hv => ?_
      have hall : ∀ u ∈ v :: done, u.Distinct := List.forall_mem_cons.mpr ⟨hv, hdone⟩
      simp only
      split
      · exact yields_error _
      · split
        · exact yields_ok fun u hu => hall u (List.mem_reverse.mp hu)
        · split
          · split
            · exact yields_error _
            · exact yields_error _
            · exact ih hall _
          · exact yields_error _

theorem yields_arrayBody (hitem : ∀ s, Yields Value.Distinct (item s)) (s : List Char) :
    Yields Value.Distinct (arrayBody item s) := by
  unfold arrayBody
  split
  · exact yields_error _
  · exact yields_ok (.array nofun)
  · exact (yields_itemsWith hitem _ (List.forall_mem_nil _) _).bind fun items rest h =>
      yields_ok (.array h)

theorem yields_memberWith (hitem : ∀ s, Yields Value.Distinct (item s)) (s : List Char) :
    Yields (fun m => m.2.Distinct) (memberWith item s) := by
  unfold memberWith
  split
  · refine (yields_of_true _).bind fun name rest _ => ?_
    simp only
    split
    · exact yields_error _
    · exact (hitem _).bind fun v rest hv => yields_ok hv
    · exact yields_error _
  · exact yields_error _

theorem yields_membersWith (hitem : ∀ s, Yields Value.Distinct (item s)) (fuel : Nat)
    {done : Members} (hdone : ∀ m ∈ done, m.2.Distinct) (s : List Char) :
    Yields (fun written => ∀ m ∈ written, m.2.Distinct) (membersWith item fuel done s) := by
  induction fuel generalizing done s with
  | zero => exact yields_error _
  | succ fuel ih =>
      refine (yields_memberWith hitem s).bind fun m rest hm => ?_
      have hall : ∀ m' ∈ m :: done, m'.2.Distinct := List.forall_mem_cons.mpr ⟨hm, hdone⟩
      simp only
      split
      · exact yields_error _
      · split
        · exact yields_ok fun m' hm' => hall m' (List.mem_reverse.mp hm')
        · split
          · split
            · exact yields_error _
            · exact yields_error _
            · exact ih hall _
          · exact yields_error _

theorem distinct_ofWritten {written : Members} (h : ∀ m ∈ written, m.2.Distinct) :
    (Value.object (Members.ofWritten written)).Distinct :=
  .object (Members.nodup_names_ofWritten written) fun m hm =>
    h m (Members.ofWritten_subset written hm)

theorem yields_objectBody (hitem : ∀ s, Yields Value.Distinct (item s)) (s : List Char) :
    Yields Value.Distinct (objectBody item s) := by
  unfold objectBody
  split
  · exact yields_error _
  · exact yields_ok (.object List.nodup_nil nofun)
  · exact (yields_membersWith hitem _ (List.forall_mem_nil _) _).bind fun written rest h =>
      yields_ok (distinct_ofWritten h)

/-! ### Values and texts -/

theorem yields_value (nesting : Nat) (s : List Char) : Yields Value.Distinct (value nesting s) := by
  -- the parts of an array or object are read with less nesting left
  induction nesting using Nat.strongRecOn generalizing s with
  | ind nesting ih =>
      unfold value
      split
      · exact yields_error _
      · split
        · exact yields_word .null _ _
        split
        · exact yields_word (.bool true) _ _
        split
        · exact yields_word (.bool false) _ _
        split
        · exact yields_numeral _ _
        split
        · exact yields_numeral _ _
        split
        · exact (yields_of_true _).bind fun text rest _ => yields_ok (.string text)
        split
        · split
          · exact yields_error _
          · exact yields_arrayBody (ih _ (Nat.lt_succ_self _)) _
        split
        · split
          · exact yields_error _
          · exact yields_objectBody (ih _ (Nat.lt_succ_self _)) _
        · exact yields_error _

/-- Every object in what is read from a text has each name once. -/
theorem distinct_of_readAll {s : List Char} {v : Value} (h : readAll s = .ok v) : v.Distinct := by
  unfold readAll at h
  cases hvalue : value maxNesting s with
  | error stop =>
      rw [hvalue] at h
      cases h
  | ok y =>
      obtain ⟨w, rest⟩ := y
      have hw : w.Distinct := yields_value maxNesting s w rest hvalue
      simp only [hvalue, bind, Except.bind] at h
      split at h
      · exact Except.ok.inj h ▸ hw
      · cases h

theorem distinct_of_read? {text : String} {v : Value} (h : read? text = some v) : v.Distinct := by
  rw [read?] at h
  cases hread : readAll text.toList with
  | error stop =>
      rw [hread] at h
      cases h
  | ok w =>
      rw [hread] at h
      obtain rfl := Option.some.inj h
      exact distinct_of_readAll hread

end ConsoleTap.Json
