/-!
# ASCII characters

There are few ASCII characters, so what holds of all of them can be checked one by one.
Letters and digits are among them, and so are the digits in which a natural is written.
-/

namespace ConsoleTap.Text

variable {c : Char}

/-- A property of all ASCII characters, from their numbers. -/
theorem of_ascii {P : Char → Prop} (h : ∀ n < 0x80, P (Char.ofNat n)) (hc : c.toNat < 0x80) :
    P c := by
  rw [← Char.ofNat_toNat c]
  exact h _ hc

theorem ascii_of_isAlphanum (h : c.isAlphanum = true) : c.toNat < 0x80 := by
  change (decide (65 ≤ c.val ∧ c.val ≤ 90) || decide (97 ≤ c.val) && decide (c.val ≤ 122)
    || decide (48 ≤ c.val) && decide (c.val ≤ 57)) = true at h
  simp only [Bool.or_eq_true, Bool.and_eq_true, decide_eq_true_eq, UInt32.le_iff_toNat_le] at h
  change ((65 ≤ c.toNat ∧ c.toNat ≤ 90) ∨ (97 ≤ c.toNat ∧ c.toNat ≤ 122)) ∨
    (48 ≤ c.toNat ∧ c.toNat ≤ 57) at h
  omega

/-- A slash of either kind. -/
def isSlash (c : Char) : Bool := c = '/' || c = '\\'

/-! ### Digits -/

/-- A written natural consists of digits. -/
theorem exists_digitChar_of_mem_toDigits {base n : Nat} (hbase : 1 < base)
    (h : c ∈ Nat.toDigits base n) : ∃ d < base, c = Nat.digitChar d := by
  induction n using Nat.strongRecOn with
  | ind n ih =>
      rcases Nat.lt_or_ge n base with hlt | hge
      · rw [Nat.toDigits_of_lt_base hlt] at h
        exact ⟨n, hlt, List.mem_singleton.mp h⟩
      · rw [Nat.toDigits_of_base_le hbase hge] at h
        rcases List.mem_append.mp h with h | h
        · exact ih _ (Nat.div_lt_self (by omega) hbase) h
        · exact ⟨n % base, Nat.mod_lt _ (by omega), List.mem_singleton.mp h⟩

theorem isAlphanum_toDigits {base n : Nat} (hbase : 1 < base) (hsmall : base ≤ 16) :
    ∀ c ∈ Nat.toDigits base n, c.isAlphanum = true := by
  intro c hc
  obtain ⟨d, hd, rfl⟩ := exists_digitChar_of_mem_toDigits hbase hc
  have hall : ∀ d < 16, (Nat.digitChar d).isAlphanum = true := by decide
  exact hall d (by omega)

theorem isAlphanum_toString (n : Nat) : ∀ c ∈ (toString n).toList, c.isAlphanum = true := by
  rw [Nat.toString_eq_repr, Nat.repr, String.toList_ofList]
  exact isAlphanum_toDigits (by decide) (by decide)

end ConsoleTap.Text
