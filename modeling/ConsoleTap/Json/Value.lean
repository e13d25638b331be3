import ConsoleTap.Number.Binary64

/-!
# JSON values

The values exchanged with a debug target.  Objects are lists of members in the
order in which their names first appeared, because everything printed about an
object follows that order; `Members.set` keeps names unique by giving a repeated
name its first position and its last value.

A number is an integer when it was written as one that fits the 64-bit ranges,
and a binary floating-point number otherwise: `1` and `1.0` are different values
here, as they are in print.
-/

namespace ConsoleTap.Json

open ConsoleTap.Number (Binary64)

inductive Value where
  | null
  | bool (b : Bool)
  | integer (n : Int)
  | real (x : Binary64)
  | string (s : String)
  | array (items : List Value)
  | object (members : List (String × Value))
deriving Repr, Inhabited

/-! ### Equality of values is decidable -/

mutual

def Value.decideEq : (a b : Value) → Decidable (a = b)
  | .null, .null => isTrue rfl
  | .bool a, .bool b => decidable_of_iff (a = b) (by simp)
  | .integer a, .integer b => decidable_of_iff (a = b) (by simp)
  | .real a, .real b => decidable_of_iff (a = b) (by simp)
  | .string a, .string b => decidable_of_iff (a = b) (by simp)
  | .array a, .array b =>
      match decideEqItems a b with
      | isTrue h => isTrue (by rw [h])
      | isFalse h => isFalse (by simp [h])
  | .object a, .object b =>
      match decideEqMembers a b with
      | isTrue h => isTrue (by rw [h])
      | isFalse h => isFalse (by simp [h])
  | .null, .bool _ | .null, .integer _ | .null, .real _ | .null, .string _ | .null, .array _
  | .null, .object _ | .bool _, .null | .bool _, .integer _ | .bool _, .real _
  | .bool _, .string _ | .bool _, .array _ | .bool _, .object _ | .integer _, .null
  | .integer _, .bool _ | .integer _, .real _ | .integer _, .string _ | .integer _, .array _
  | .integer _, .object _ | .real _, .null | .real _, .bool _ | .real _, .integer _
  | .real _, .string _ | .real _, .array _ | .real _, .object _ | .string _, .null
  | .string _, .bool _ | .string _, .integer _ | .string _, .real _ | .string _, .array _
  | .string _, .object _ | .array _, .null | .array _, .bool _ | .array _, .integer _
  | .array _, .real _ | .array _, .string _ | .array _, .object _ | .object _, .null
  | .object _, .bool _ | .object _, .integer _ | .object _, .real _ | .object _, .string _
  | .object _, .array _ => isFalse (by simp)

def decideEqItems : (a b : List Value) → Decidable (a = b)
  | [], [] => isTrue rfl
  | [], _ :: _ => isFalse (by simp)
  | _ :: _, [] => isFalse (by simp)
  | a :: as, b :: bs =>
      match Value.decideEq a b, decideEqItems as bs with
      | isTrue h, isTrue hs => isTrue (by rw [h, hs])
      | isFalse h, _ => isFalse (by simp [h])
      | _, isFalse hs => isFalse (by simp [hs])

def decideEqMembers : (a b : List (String × Value)) → Decidable (a = b)
  | [], [] => isTrue rfl
  | [], _ :: _ => isFalse (by simp)
  | _ :: _, [] => isFalse (by simp)
  | (n, a) :: as, (m, b) :: bs =>
      match (inferInstance : Decidable (n = m)), Value.decideEq a b, decideEqMembers as bs with
      | isTrue hn, isTrue h, isTrue hs => isTrue (by rw [hn, h, hs])
      | isFalse hn, _, _ => isFalse (by simp [hn])
      | _, isFalse h, _ => isFalse (by simp [h])
      | _, _, isFalse hs => isFalse (by simp [hs])

end

instance : DecidableEq Value := Value.decideEq

/-! ### Members of an object -/

/-- The members of an object, in the order of their names' first appearance. -/
abbrev Members := List (String × Value)

namespace Members

/-- The value of the first member of that name. -/
def get? : Members → String → Option Value
  | [], _ => none
  | (n, v) :: rest, name => if n = name then some v else get? rest name

/-- Gives a name a value: in place if the name is there, at the end otherwise. -/
def set : Members → String → Value → Members
  | [], name, value => [(name, value)]
  | (n, v) :: rest, name, value =>
      if n = name then (n, value) :: rest else (n, v) :: set rest name value

/-- The members that a sequence of written members amounts to. -/
def ofWritten (written : List (String × Value)) : Members :=
  written.foldl (fun ms m => set ms m.1 m.2) []

end Members

namespace Value

/-- The member of that name, of an object. -/
def get? : Value → String → Option Value
  | .object ms, name => Members.get? ms name
  | _, _ => none

def isObject : Value → Bool
  | .object _ => true
  | _ => false

/-- The value as a natural, if it was written as an integer and is not negative. -/
def asNat? : Value → Option Nat
  | .integer n => if 0 ≤ n then some n.toNat else none
  | _ => none

end Value

/-! ### Nesting -/

mutual

/-- How many arrays and objects stand inside one another, at most. -/
def Value.depth : Value → Nat
  | .null | .bool _ | .integer _ | .real _ | .string _ => 0
  | .array items => depthItems items + 1
  | .object members => depthMembers members + 1

def depthItems : List Value → Nat
  | [] => 0
  | v :: rest => max v.depth (depthItems rest)

def depthMembers : List (String × Value) → Nat
  | [] => 0
  | (_, v) :: rest => max v.depth (depthMembers rest)

end

end ConsoleTap.Json
