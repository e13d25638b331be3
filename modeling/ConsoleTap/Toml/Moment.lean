import ConsoleTap.Toml.Numeral

/-!
# TOML dates and times

A moment is a date, a time of day, or a date followed by a time, which then may
have an offset.  Every part has its fixed number of digits and its range, the day
that of its month; a sixtieth second is allowed.
-/

namespace ConsoleTap.Toml

/-- Reads exactly that many decimal digits. -/
def exactly? (count : Nat) (s : List Char) : Option (Nat × List Char) :=
  let written := s.take count
  if written.length < count then none
  else (Text.natural? 10 written).map fun n => (n, s.drop count)

/-- Reads two digits within a range. -/
def twoDigits? (low high : Nat) (s : List Char) : Option (Nat × List Char) :=
  match exactly? 2 s with
  | some (n, rest) => if low ≤ n ∧ n ≤ high then some (n, rest) else none
  | none => none

/-- The text behind a character, if it begins with that one. -/
def behind? (c : Char) : List Char → Option (List Char)
  | [] => none
  | d :: rest => if c = d then some rest else none

def daysIn (year month : Nat) : Nat :=
  if month = 2 then
    if year % 4 = 0 ∧ (year % 100 ≠ 0 ∨ year % 400 = 0) then 29 else 28
  else if month = 4 ∨ month = 6 ∨ month = 9 ∨ month = 11 then 30
  else 31

def date? (s : List Char) : Option (List Char) := do
  let (year, s) ← exactly? 4 s
  let s ← behind? '-' s
  let (month, s) ← twoDigits? 1 12 s
  let s ← behind? '-' s
  let (_, s) ← twoDigits? 1 (daysIn year month) s
  return s

/-- The text behind the decimals of a second, if there are any. -/
def decimals (s : List Char) : List Char :=
  match s with
  | '.' :: c :: rest => if Text.isDigit 10 c then rest.dropWhile (Text.isDigit 10) else s
  | _ => s

def time? (s : List Char) : Option (List Char) := do
  let (_, s) ← twoDigits? 0 23 s
  let s ← behind? ':' s
  let (_, s) ← twoDigits? 0 59 s
  let s ← behind? ':' s
  let (_, s) ← twoDigits? 0 60 s
  return decimals s

def offset? : List Char → Option (List Char)
  | 'Z' :: rest | 'z' :: rest => some rest
  | '+' :: s | '-' :: s => do
      let (_, s) ← twoDigits? 0 23 s
      let s ← behind? ':' s
      let (_, s) ← twoDigits? 0 59 s
      return s
  | _ => none

/-- The text behind the time that follows a date, if one does. -/
def timeOfDate (s : List Char) : List Char :=
  match s with
  | 'T' :: rest | 't' :: rest | ' ' :: rest =>
      match time? rest with
      | some rest => (offset? rest).getD rest
      | none => s
  | _ => s

/-- Reads a date, a date with a time, or a time of day. -/
def moment? (s : List Char) : Option (Value × List Char) :=
  match (date? s).map timeOfDate with
  | some rest => some (.moment (before s rest), rest)
  | none => (time? s).map fun rest => (.moment (before s rest), rest)

end ConsoleTap.Toml
