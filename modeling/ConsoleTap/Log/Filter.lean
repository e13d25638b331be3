import ConsoleTap.Log
import ConsoleTap.Text.Alphanumeric
import ConsoleTap.Text.Blank
import ConsoleTap.Text.Bytes
import ConsoleTap.Text.Digits
import ConsoleTap.Text.Lines

/-!
# Filters for the log

A filter is a list of directives, separated by commas.  A directive sets the
level from which on notices are shown, for all of them, for those of the parts of
the program whose name begins with a target, or for those within a span:

    warn
    target=debug
    target[span{field=value}]=info

Of the directives that apply to a notice the most specific one decides: the one
with the longest target, then the one that asks for more fields, then the last.
A notice to which none applies is not shown.

The value of a field is a literal or else a pattern.  Whether a text can be used as
a pattern is not decided here: `patternFault?` answers what is wrong with it.

`EnvFilter` reads these filters; nothing that it does with spans is modelled, as
no notice is in one.
-/

namespace ConsoleTap.Log

/-- The level from which on notices are shown; `none` shows no notice. -/
abbrev Threshold := Option Level

structure Directive where
  /-- What the name of the part begins with. -/
  target : Option (List Char) := none
  span : Option (List Char) := none
  /-- A field that is asked for, with its value if there is one. -/
  field : Option (List Char) := none
  threshold : Threshold := some .trace
deriving DecidableEq, Repr, Inhabited

inductive FilterFault where
  | malformed
  | level
  /-- The value of a field is no pattern, for that reason. -/
  | pattern (reason : String)
  /-- A part of a directive would begin or end inside a character. That is no answer
      for whoever reads a filter: the program breaks off. -/
  | torn
deriving DecidableEq, Repr, Inhabited

/-- What is said of a fault, if the program goes on to say anything. -/
def FilterFault.message? : FilterFault → Option String
  | .malformed => some "invalid filter directive"
  | .level => some ("error parsing level filter: expected one of \"off\", \"error\", \"warn\", " ++
      "\"info\", \"debug\", \"trace\", or a number 0-5")
  | .pattern reason => some ("invalid field filter: " ++ reason)
  | .torn => none

/-! ### Thresholds -/

def numberedThresholds : List Threshold :=
  [none, some .error, some .warn, some .info, some .debug, some .trace]

def namedThresholds : List (String × Threshold) :=
  [("error", some .error), ("warn", some .warn), ("info", some .info), ("debug", some .debug),
    ("trace", some .trace), ("off", none)]

def numberedThreshold? (s : List Char) : Option Threshold :=
  let digits :=
    match s with
    | '+' :: digits => digits
    | digits => digits
  (Text.natural? 10 digits).bind fun n => numberedThresholds[n]?

/-- The threshold that a text stands for, by its number or by its name in letters
    of either case. -/
def threshold? (s : List Char) : Option Threshold :=
  (numberedThreshold? s).or (namedThresholds.lookup (String.ofList (s.map Char.toLower)))

/-! ### Values of fields -/

/-- The text behind its sign, if it has one. -/
def unsigned : List Char → List Char
  | '+' :: rest | '-' :: rest => rest
  | s => s

/-- Whether a text is nothing, or an exponent of ten with its letter. -/
def isExponent : List Char → Bool
  | [] => true
  | 'e' :: rest | 'E' :: rest => (Text.natural? 10 (unsigned rest)).isSome
  | _ => false

/-- Whether a text is a decimal number without a sign: digits, a point before, between or
    behind them, and an exponent. -/
def isDecimal (s : List Char) : Bool :=
  let whole := s.takeWhile (Text.isDigit 10)
  match s.dropWhile (Text.isDigit 10) with
  | '.' :: rest =>
      !(whole.isEmpty && (rest.takeWhile (Text.isDigit 10)).isEmpty) &&
        isExponent (rest.dropWhile (Text.isDigit 10))
  | rest => !whole.isEmpty && isExponent rest

def truthLiterals : List (List Char) := ["true".toList, "false".toList]

/-- The literals that stand for no finite number, in letters of either case. -/
def limitLiterals : List (List Char) := ["inf".toList, "infinity".toList, "nan".toList]

/-- Whether the value of a field is a literal. -/
def isLiteral (value : List Char) : Bool :=
  truthLiterals.contains value || isDecimal (unsigned value) ||
    limitLiterals.contains ((unsigned value).map Char.toLower)

/-- The value that is asked for of a field: what stands between its first two equals signs. -/
def fieldValue? (field : List Char) : Option (List Char) :=
  match field.dropWhile (· ≠ '=') with
  | [] => none
  | _ :: rest => some (rest.takeWhile (· ≠ '='))

/-! ### Reading directives -/

/-- Whether a directive may begin with a character, a bracket apart. -/
def beginsName (c : Char) : Bool := c = '-' || c = ':' || c = '_' || Text.isAlphanumeric c

/-- The position of the first character of a kind, from a position on. -/
def find (s : List Char) (isSought : Char → Bool) (i : Nat) : Nat :=
  i + ((s.drop i).takeWhile fun c => !isSought c).length

/-- A directive as it is written. The positions of its parts are those in the text without the
    white space at its ends, but the parts are cut out of the text as it is, by the bytes
    before them; so white space in front displaces them. -/
structure Draft where
  text : List Char
deriving DecidableEq, Repr, Inhabited

namespace Draft

def trimmed (d : Draft) : List Char := Text.trim d.text

/-- The part from one position up to another. -/
def between (d : Draft) (i j : Nat) : Except FilterFault (List Char) :=
  match Text.cut? d.text (Text.size (d.trimmed.take i)) (Text.size (d.trimmed.take j)) with
  | some part => .ok part
  | none => .error .torn

/-- The part from a position on. -/
def behind (d : Draft) (i : Nat) : Except FilterFault (List Char) :=
  match Text.dropBytes? (Text.size (d.trimmed.take i)) d.text with
  | some part => .ok part
  | none => .error .torn

end Draft

section Reading

variable (patternFault? : List Char → Option String)

/-- Checks the value that is asked for of a field. -/
def checkField (field : List Char) : Except FilterFault Unit :=
  match fieldValue? field with
  | none => .ok ()
  | some value =>
      if isLiteral value then .ok ()
      else
        match patternFault? value with
        | none => .ok ()
        | some reason => .error (.pattern reason)

namespace Directive

def withLevel (d : Directive) (draft : Draft) (i : Nat) : Except FilterFault Directive := do
  match ← draft.behind i with
  | [] => .ok d
  | level =>
      match threshold? level with
      | some threshold => .ok { d with threshold := threshold }
      | none => .error .level

def behindSpan (d : Directive) (draft : Draft) (i : Nat) : Except FilterFault Directive :=
  match draft.trimmed.drop i with
  | [] => .ok d
  | '=' :: _ => d.withLevel draft (i + 1)
  | _ => .error .malformed

def withFields (d : Directive) (draft : Draft) (i : Nat) : Except FilterFault Directive := do
  let j := find draft.trimmed (· = '}') i
  match draft.trimmed.drop j with
  | '}' :: rest =>
      let field ← draft.between i j
      if field.isEmpty then .error .malformed
      else do
        checkField patternFault? field
        match rest with
        | ']' :: _ => ({ d with field := some field } : Directive).behindSpan draft (j + 2)
        | _ => .error .malformed
  | _ => .error .malformed

def withSpan (d : Directive) (draft : Draft) (i : Nat) : Except FilterFault Directive := do
  let j := find draft.trimmed (fun c => c = ']' || c = '{') i
  match draft.trimmed.drop j with
  | ']' :: _ => do
      let span ← draft.between i j
      ({ d with span := some span } : Directive).behindSpan draft (j + 1)
  | '{' :: _ => do
      let span ← draft.between i j
      let d := { d with span := if span.isEmpty then none else some span }
      d.withFields patternFault? draft (j + 1)
  | _ => .error .malformed

/-- Reads a directive. -/
def read (s : List Char) : Except FilterFault Directive :=
  let draft : Draft := ⟨s⟩
  match draft.trimmed with
  | [] => .error .malformed
  | '[' :: _ => ({} : Directive).withSpan patternFault? draft 1
  | c :: _ =>
      if !beginsName c then .error .malformed
      else
        let i := find draft.trimmed (fun c => c = '=' || c = '[') 0
        match draft.trimmed.drop i with
        | '=' :: _ => do
            let target ← draft.between 0 i
            ({ target := some target } : Directive).withLevel draft (i + 1)
        | '[' :: _ => do
            let target ← draft.between 0 i
            ({ target := some target } : Directive).withSpan patternFault? draft (i + 1)
        | _ =>
            match threshold? s with
            | some threshold => .ok { threshold := threshold }
            | none => .ok { target := some s }

end Directive

/-- Reads a filter. Empty directives are skipped. -/
def readFilter (text : String) : Except FilterFault (List Directive) :=
  ((Text.splitOn ',' text.toList).filter fun s => !s.isEmpty).mapM (Directive.read patternFault?)

end Reading

/-! ### Filtering -/

/-- The field that every notice has. -/
def noticeField : List Char := "message".toList

/-- Whether a directive applies to the notices of a part of the program. Notices
    are in no span and have one field, of no value that could be asked for. -/
def Directive.appliesTo (d : Directive) (part : List Char) : Bool :=
  d.span.isNone && (d.target.all fun t => t.isPrefixOf part) && (d.field.all fun f => f = noticeField)

def Directive.specificity (d : Directive) : Nat × Nat :=
  ((d.target.map fun t => t.length + 1).getD 0, if d.field.isSome then 1 else 0)

/-- The more specific of two directives, the second one if they are equal. -/
def Directive.prefer (a b : Directive) : Directive :=
  if b.specificity.1 < a.specificity.1 ∨
      (a.specificity.1 = b.specificity.1 ∧ b.specificity.2 < a.specificity.2)
  then a else b

def deciding? (filter : List Directive) (part : List Char) : Option Directive :=
  (filter.filter (·.appliesTo part)).foldl
    (fun best d => some (best.elim d fun b => b.prefer d)) none

def shows (filter : List Directive) (part : String) (level : Level) : Bool :=
  match deciding? filter part.toList with
  | some { threshold := some threshold, .. } => decide (threshold.rank ≤ level.rank)
  | _ => false

end ConsoleTap.Log
