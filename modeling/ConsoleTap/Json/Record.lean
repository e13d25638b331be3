import ConsoleTap.Json.Writer
import ConsoleTap.Text.Quoted

/-!
# Reading records from JSON values

A record of the protocol is described once, by a `Schema`: its fields in order,
each with the reader of its value.  The same description reads two forms.  In an
object, fields are looked up by name, members of other names are skipped and
absent fields keep their defaults.  In an array, items are the fields in order;
trailing fields that have a default may be missing, and nothing may follow the
last field.

A value of the wrong shape is a `Mismatch`.  Fields are read in the order in
which the value holds them, so the first misfit in that order is the one
reported.
-/

namespace ConsoleTap.Json

/-! ### Mismatches -/

/-- What a reader was prepared to accept. -/
inductive Shape where
  | string
  | boolean
  | wholeNumber
  | sequence
  | record (name : String)
deriving DecidableEq, Repr, Inhabited

def Shape.message : Shape → String
  | .string => "a string"
  | .boolean => "a boolean"
  | .wholeNumber => "i64"
  | .sequence => "a sequence"
  | .record name => "struct " ++ name

/-- Why a value is not what a reader expected. -/
inductive Mismatch where
  | shape (found : Value) (expected : Shape)
  | range (found : Int) (expected : Shape)
  /-- An array ends before a field that it must hold, the one at that position. -/
  | tooShort (position : Nat) (record : String) (fields : Nat)
  /-- An array goes on behind the last field. -/
  | tooLong (length : Nat)
deriving DecidableEq, Repr, Inhabited

def Value.described : Value → String
  | .null => "null"
  | .bool true => "boolean `true`"
  | .bool false => "boolean `false`"
  | .integer n => "integer `" ++ String.ofList (integerText n) ++ "`"
  | .real x => "floating point `" ++ String.ofList (realText x) ++ "`"
  | .string s => "string " ++ Text.quoted s
  | .array _ => "sequence"
  | .object _ => "map"

def Mismatch.message : Mismatch → String
  | .shape found expected => "invalid type: " ++ found.described ++ ", expected " ++ expected.message
  | .range found expected =>
      "invalid value: integer `" ++ String.ofList (integerText found) ++ "`, expected " ++
        expected.message
  | .tooShort position record fields =>
      "invalid length " ++ toString position ++ ", expected struct " ++ record ++ " with " ++
        toString fields ++ (if fields = 1 then " element" else " elements")
  | .tooLong length => "invalid length " ++ toString length ++ ", expected fewer elements in array"

/-! ### Readers of single values -/

abbrev Reading (α : Type) := Except Mismatch α

def readString : Value → Reading String
  | .string s => .ok s
  | v => .error (.shape v .string)

def readBool : Value → Reading Bool
  | .bool b => .ok b
  | v => .error (.shape v .boolean)

/-- Reads an integer of the signed 64-bit range. -/
def readInteger : Value → Reading Int
  | .integer n => if -Int.pow 2 63 ≤ n ∧ n < Int.pow 2 63 then .ok n else .error (.range n .wholeNumber)
  | v => .error (.shape v .wholeNumber)

def readOption {α : Type} (read : Value → Reading α) : Value → Reading (Option α)
  | .null => .ok none
  | v => (read v).map some

def readList {α : Type} (read : Value → Reading α) : Value → Reading (List α)
  | .array items => items.mapM read
  | v => .error (.shape v .sequence)

/-- Keeps a value as it is, null included. -/
def readAny (v : Value) : Reading (Option Value) := .ok (some v)

/-! ### Schemas -/

/-- A field of a record: its name, whether the positional form must hold it, and
    how a value is read into a record. -/
structure Field (R : Type) where
  name : String
  required : Bool
  store : Value → R → Reading R

/-- A field with a default, read by `read` and put in its place by `put`. -/
def field {R α : Type} (name : String) (read : Value → Reading α) (put : R → α → R) : Field R where
  name := name
  required := false
  store v r := (read v).map (put r)

/-- A field that the positional form may not leave out. -/
def requiredField {R α : Type} (name : String) (read : Value → Reading α) (put : R → α → R) :
    Field R :=
  { field name read put with required := true }

/-- The description of a record: its name in messages, the record of all
    defaults, and its fields in order. -/
structure Schema (R : Type) where
  name : String
  defaults : R
  fields : List (Field R)

namespace Schema

variable {R : Type}

/-- Reads one member into a record; a member of no field changes nothing. -/
def storeMember (schema : Schema R) (r : R) (m : String × Value) : Reading R :=
  match schema.fields.find? (fun f => f.name = m.1) with
  | some f => f.store m.2 r
  | none => .ok r

def storeMembers (schema : Schema R) (ms : Members) : Reading R :=
  ms.foldlM schema.storeMember schema.defaults

def storeItems (schema : Schema R) (length : Nat) : List (Field R) → List Value → R → Reading R
  | [], [], r => .ok r
  | [], _ :: _, _ => .error (.tooLong length)
  | f :: fields, [], r =>
      if f.required then
        .error (.tooShort (schema.fields.length - (fields.length + 1)) schema.name
          schema.fields.length)
      else storeItems schema length fields [] r
  | f :: fields, v :: items, r => do storeItems schema length fields items (← f.store v r)

/-- Reads a record from either of its forms. -/
def read (schema : Schema R) : Value → Reading R
  | .object ms => schema.storeMembers ms
  | .array items => schema.storeItems items.length schema.fields items schema.defaults
  | v => .error (.shape v (.record schema.name))

end Schema
end ConsoleTap.Json
