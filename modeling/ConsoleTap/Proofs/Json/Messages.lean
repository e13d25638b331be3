import ConsoleTap.Json.Record
import ConsoleTap.Proofs.Text.Ascii

/-!
# Messages are one line

The message about a misfit quotes the value that was found.  A quoted text shows line breaks
as escapes, and numbers are written without any, so a message is one line whatever the value
holds, provided that the name of the record is.
-/

namespace ConsoleTap

namespace Text

variable {cs ds : List Char} {c : Char}

/-- Neither line feeds nor carriage returns. -/
def OneLine (cs : List Char) : Prop := ∀ c ∈ cs, c ≠ '\n' ∧ c ≠ '\r'

instance (cs : List Char) : Decidable (OneLine cs) := List.decidableBAll _ cs

theorem OneLine.mono (h : OneLine cs) (hsubset : ds ⊆ cs) : OneLine ds :=
  fun c hc => h c (hsubset hc)

@[simp] theorem oneLine_nil : OneLine [] := nofun

@[simp] theorem oneLine_cons : OneLine (c :: cs) ↔ (c ≠ '\n' ∧ c ≠ '\r') ∧ OneLine cs :=
  List.forall_mem_cons

@[simp] theorem oneLine_append : OneLine (cs ++ ds) ↔ OneLine cs ∧ OneLine ds :=
  List.forall_mem_append

theorem oneLine_flatMap {f : Char → List Char} (h : ∀ c, OneLine (f c)) :
    OneLine (cs.flatMap f) := by
  intro c hc
  obtain ⟨d, -, hd⟩ := List.mem_flatMap.mp hc
  exact h d c hd

theorem oneLine_replicate (n : Nat) (h : c ≠ '\n' ∧ c ≠ '\r') : OneLine (List.replicate n c) := by
  intro d hd
  rw [List.eq_of_mem_replicate hd]
  exact h

/-! ### Digits -/

theorem oneLine_toDigits {base : Nat} (hbase : 1 < base) (n : Nat) :
    OneLine (Nat.toDigits base n) := by
  intro c hc
  obtain ⟨d, -, rfl⟩ := exists_digitChar_of_mem_toDigits hbase hc
  simp

theorem oneLine_toString (n : Nat) : OneLine (toString n).toList := by
  rw [Nat.toString_eq_repr, Nat.repr, String.toList_ofList]
  exact oneLine_toDigits (by decide) n

/-! ### Quoted text -/

theorem oneLine_escaped (c : Char) : OneLine (escaped c) := by
  unfold escaped
  split
  case h_7 d _ _ hreturn hfeed _ _ =>
    split
    · simpa using ⟨hfeed, hreturn⟩
    · have hdigits : OneLine (hexDigits c.toNat) := oneLine_toDigits (by decide) _
      simp [hdigits]
  all_goals decide

theorem oneLine_quoted (s : String) : OneLine (quoted s).toList := by
  rw [quoted, String.toList_ofList]
  simpa using oneLine_flatMap oneLine_escaped

end Text

namespace Json

open Text

theorem oneLine_natDigits (n : Nat) : OneLine (natDigits n) := oneLine_toDigits (by decide) n

theorem oneLine_integerText (n : Int) : OneLine (integerText n) := by
  rw [integerText]
  split <;> simp [oneLine_natDigits]

theorem oneLine_layout (style : RealStyle) (d : Number.Decimal) : OneLine (style.layout d) := by
  have hdigits := oneLine_natDigits d.digits
  have htake : ∀ n, OneLine ((natDigits d.digits).take n) :=
    fun n => hdigits.mono (List.take_subset _ _)
  have hdrop : ∀ n, OneLine ((natDigits d.digits).drop n) :=
    fun n => hdigits.mono (List.drop_subset _ _)
  have htail : OneLine (natDigits d.digits).tail := hdigits.mono (List.tail_sublist _).subset
  have hzeros : ∀ n, OneLine (List.replicate n '0') := fun n => oneLine_replicate n (by decide)
  simp only [RealStyle.layout]
  repeat' split
  all_goals simp [hdigits, htake, hdrop, htail, hzeros, oneLine_natDigits]

theorem oneLine_realText (x : Number.Binary64) : OneLine (realText x) := by
  rw [realText, oneLine_append]
  refine ⟨?_, oneLine_layout _ _⟩
  split <;> simp

theorem oneLine_described (v : Value) : OneLine v.described.toList := by
  cases v with
  | null =>
      change OneLine "null".toList
      simp
  | bool b =>
      cases b
      · change OneLine "boolean `false`".toList
        simp
      · change OneLine "boolean `true`".toList
        simp
  | integer n =>
      change OneLine ("integer `" ++ String.ofList (integerText n) ++ "`").toList
      simp [oneLine_integerText]
  | real x =>
      change OneLine ("floating point `" ++ String.ofList (realText x) ++ "`").toList
      simp [oneLine_realText]
  | string s =>
      change OneLine ("string " ++ quoted s).toList
      simp [oneLine_quoted]
  | array items =>
      change OneLine "sequence".toList
      simp
  | object members =>
      change OneLine "map".toList
      simp

namespace Mismatch

theorem oneLine_shape {expected : Shape} (h : OneLine expected.message.toList) (found : Value) :
    OneLine (shape found expected).message.toList := by
  change OneLine ("invalid type: " ++ found.described ++ ", expected " ++ expected.message).toList
  simp [oneLine_described, h]

theorem oneLine_range {expected : Shape} (h : OneLine expected.message.toList) (found : Int) :
    OneLine (range found expected).message.toList := by
  change OneLine ("invalid value: integer `" ++ String.ofList (integerText found) ++
    "`, expected " ++ expected.message).toList
  simp [oneLine_integerText, h]

theorem oneLine_tooShort {record : String} (h : OneLine record.toList) (position fields : Nat) :
    OneLine (tooShort position record fields).message.toList := by
  change OneLine ("invalid length " ++ toString position ++ ", expected struct " ++ record ++
    " with " ++ toString fields ++ (if fields = 1 then " element" else " elements")).toList
  simp only [String.toList_append, oneLine_append]
  refine ⟨⟨⟨⟨⟨⟨by simp, oneLine_toString _⟩, by simp⟩, h⟩, by simp⟩, oneLine_toString _⟩, ?_⟩
  split <;> simp

theorem oneLine_tooLong (length : Nat) : OneLine (tooLong length).message.toList := by
  change OneLine
    ("invalid length " ++ toString length ++ ", expected fewer elements in array").toList
  simp only [String.toList_append, oneLine_append]
  exact ⟨⟨by simp, oneLine_toString _⟩, by simp⟩

end Mismatch
end Json
end ConsoleTap
