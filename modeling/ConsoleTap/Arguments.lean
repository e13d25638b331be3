import ConsoleTap.Settings.Basic
import ConsoleTap.Text.Digits

/-!
# The command line

A command line is the address of the target and options in any order.  The value
of an option is the next argument or stands behind an equals sign; behind the
letter of an option it may follow at once.  Two dashes alone end the options.

An option is settled, its value read, when the next option or address begins or
the command line ends, so of two faults the one that is met first in this order
is reported; an argument that is not understood at all is reported at once.

`Cli` has these options; its `apply_overrides` is `Invocation.override`.
-/

namespace ConsoleTap

/-- What a command line asks for. -/
structure Invocation where
  url : String
  config : Option String := none
  depth : Option Nat := none
  fetchTimeoutMs : Option Nat := none
  connectTimeoutSecs : Option Nat := none
deriving DecidableEq, Repr, Inhabited

/-- The limits of a session, with those of the command line in their places. -/
def Invocation.override (i : Invocation) (s : SessionSettings) : SessionSettings where
  connectTimeoutSecs := i.connectTimeoutSecs.getD s.connectTimeoutSecs
  fetchTimeoutMs := i.fetchTimeoutMs.getD s.fetchTimeoutMs
  maxDepth := i.depth.getD s.maxDepth

/-- Why a command line starts nothing. -/
inductive UsageFault where
  | addressMissing
  | unknownArgument
  /-- An option without its value, or with an empty one where that says nothing. -/
  | valueMissing
  | valueInvalid
  | repeatedOption
  | valueUnexpected
  | helpWanted
  | versionWanted
deriving DecidableEq, Repr, Inhabited

namespace Arguments

/-- An option with a value. -/
inductive Flag where
  | config
  | depth
  | fetchTimeoutMs
  | connectTimeoutSecs
deriving DecidableEq, Repr, Inhabited

/-- What an option's name stands for. -/
inductive Meaning where
  | flag (f : Flag)
  | stop (reason : UsageFault)
deriving DecidableEq, Repr, Inhabited

def names : List (String × Meaning) :=
  [("config", .flag .config), ("depth", .flag .depth),
    ("fetch-timeout-ms", .flag .fetchTimeoutMs),
    ("connect-timeout-secs", .flag .connectTimeoutSecs),
    ("help", .stop .helpWanted), ("version", .stop .versionWanted)]

def letters : List (Char × Meaning) :=
  [('c', .flag .config), ('h', .stop .helpWanted), ('V', .stop .versionWanted)]

/-! ### Values -/

/-- Reads a depth: an integer of 64 bits with a sign that is no less than zero and
    fits 32 bits. -/
def readDepth (s : List Char) : Except UsageFault Nat :=
  match Text.integer? s with
  | some n => if 0 ≤ n ∧ n ≤ Settings.maxMaxDepth then .ok n.toNat else .error .valueInvalid
  | none => .error .valueInvalid

/-- Reads a time limit: a natural of 64 bits, not zero. -/
def readLimit (s : List Char) : Except UsageFault Nat :=
  let digits :=
    match s with
    | '+' :: digits => digits
    | digits => digits
  match Text.natural? 10 digits with
  | some n => if 0 < n ∧ n ≤ Settings.maxLimit then .ok n else .error .valueInvalid
  | none => .error .valueInvalid

/-! ### Reading -/

/-- How far a command line has been read. -/
structure Progress where
  config : Option String := none
  depth : Option Nat := none
  fetchTimeoutMs : Option Nat := none
  connectTimeoutSecs : Option Nat := none
  url : Option String := none
  /-- The option that is not settled yet, with its value once that was met. -/
  pending : Option (Flag × Option (List Char)) := none
  optionsEnded : Bool := false
deriving Repr, Inhabited

namespace Progress

def has (p : Progress) : Flag → Bool
  | .config => p.config.isSome
  | .depth => p.depth.isSome
  | .fetchTimeoutMs => p.fetchTimeoutMs.isSome
  | .connectTimeoutSecs => p.connectTimeoutSecs.isSome

def store (p : Progress) (flag : Flag) (value : List Char) : Except UsageFault Progress :=
  if p.has flag then .error .repeatedOption
  else
    match flag with
    | .config =>
        if value.isEmpty then .error .valueMissing
        else .ok { p with config := some (String.ofList value) }
    | .depth => (readDepth value).map fun n => { p with depth := some n }
    | .fetchTimeoutMs => (readLimit value).map fun n => { p with fetchTimeoutMs := some n }
    | .connectTimeoutSecs => (readLimit value).map fun n => { p with connectTimeoutSecs := some n }

def settle (p : Progress) : Except UsageFault Progress :=
  match p.pending with
  | none => .ok p
  | some (_, none) => .error .valueMissing
  | some (flag, some value) => { p with pending := none }.store flag value

def takeOption (p : Progress) (meaning : Meaning) (attached : Option (List Char)) :
    Except UsageFault Progress :=
  match meaning, attached with
  | .flag flag, some value => do (← p.settle).store flag value
  | .flag flag, none => do return { ← p.settle with pending := some (flag, none) }
  | .stop _, some _ => .error .valueUnexpected
  | .stop reason, none => do
      let _ ← p.settle
      throw reason

def takeNamed (p : Progress) (s : List Char) : Except UsageFault Progress :=
  let name := s.takeWhile (· ≠ '=')
  let attached := if name.length = s.length then none else some (s.drop (name.length + 1))
  match names.lookup (String.ofList name) with
  | some meaning => p.takeOption meaning attached
  | none => .error .unknownArgument

/-- Takes an option that is given by its letter, with what follows the letter. An
    equals sign between the two is no part of the value. -/
def takeLettered (p : Progress) (letter : Char) (rest : List Char) : Except UsageFault Progress :=
  match letters.lookup letter with
  | none => .error .unknownArgument
  | some (.stop reason) => p.takeOption (.stop reason) none
  | some (.flag flag) =>
      match rest with
      | [] => p.takeOption (.flag flag) none
      | '=' :: value => p.takeOption (.flag flag) (some value)
      | value => p.takeOption (.flag flag) (some value)

def takeAddress (p : Progress) (s : List Char) : Except UsageFault Progress :=
  if p.url.isSome then .error .unknownArgument
  else do return { ← p.settle with url := some (String.ofList s) }

/-- Takes the value of an option that waits for it, or the address. -/
def takePlain (p : Progress) (s : List Char) : Except UsageFault Progress :=
  match p.pending with
  | some (flag, none) => .ok { p with pending := some (flag, some s) }
  | _ => p.takeAddress s

def take (p : Progress) (argument : String) : Except UsageFault Progress :=
  if p.optionsEnded then p.takeAddress argument.toList
  else
    match argument.toList with
    | ['-', '-'] => .ok { p with optionsEnded := true }
    | '-' :: '-' :: rest => p.takeNamed rest
    | '-' :: letter :: rest => p.takeLettered letter rest
    | s => p.takePlain s

def finish (p : Progress) : Except UsageFault Invocation := do
  let p ← p.settle
  match p.url with
  | none => throw .addressMissing
  | some url =>
      return ⟨url, p.config, p.depth, p.fetchTimeoutMs, p.connectTimeoutSecs⟩

end Progress

def read (arguments : List String) : Except UsageFault Invocation := do
  (← arguments.foldlM Progress.take {}).finish

end Arguments
end ConsoleTap
