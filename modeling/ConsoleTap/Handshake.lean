import ConsoleTap.Text.Digits

/-!
# The handshake's own view of an address

The request that opens a web socket names its target by a URI.  The text of the
user's address is taken for that as it stands, and what an address repairs, a URI
refuses: characters that have to be encoded, a scheme without two slashes, an
authority of the wrong form.  A text without a scheme can still be an authority,
but then nothing says which port is meant unless the text does.

`Uri` reads such a text for `connect_async`.
-/

namespace ConsoleTap.Handshake

inductive UriFault where
  | character
  | authority
  | format
  | tooLong
deriving DecidableEq, Repr, Inhabited

def UriFault.message : UriFault → String
  | .character => "invalid uri character"
  | .authority => "invalid authority"
  | .format => "invalid format"
  | .tooLong => "uri too long"

/-- Why a text cannot be the target of a handshake. -/
inductive Refusal where
  | uri (cause : UriFault)
  /-- Neither the scheme nor the text says which port is meant. -/
  | scheme
deriving DecidableEq, Repr, Inhabited

def Refusal.message : Refusal → String
  | .uri cause => "HTTP format error: " ++ cause.message
  | .scheme => "URL error: URL scheme not supported"

/-! ### The parts of a URI -/

def isSchemeChar (c : Char) : Bool :=
  c.isAlphanum || c = '+' || c = '-' || c = '.' || c = '~'

/-- The scheme of a URI, if two slashes follow its colon, and the rest. -/
def splitScheme (s : List Char) : Option (List Char) × List Char :=
  match s.dropWhile isSchemeChar with
  | ':' :: '/' :: '/' :: rest => (some (s.takeWhile isSchemeChar), rest)
  | _ => (none, s)

def isAuthorityChar (c : Char) : Bool :=
  c.isAlphanum ||
    ['!', '$', '&', '\'', '(', ')', '*', '+', ',', '-', '.', ':', ';', '=', '@', '[', ']', '_',
      '~', '%'].contains c

/-- What has been seen of an authority. -/
structure Scan where
  /-- Colons since the last at sign or closing bracket. -/
  colons : Nat := 0
  opened : Bool := false
  closed : Bool := false
  /-- Whether there was a percent sign since then. -/
  percent : Bool := false

/-- The greatest number of colons in a row of an authority. -/
def maxColons : Nat := 8

def Scan.take (s : Scan) (c : Char) : Except UriFault Scan :=
  if !isAuthorityChar c then .error .character
  else if c = ':' then
    if maxColons ≤ s.colons then .error .authority else .ok { s with colons := s.colons + 1 }
  else if c = '[' then
    if s.percent || s.opened then .error .authority else .ok { s with opened := true }
  else if c = ']' then
    if !s.opened || s.closed then .error .authority
    else .ok { s with closed := true, colons := 0, percent := false }
  else if c = '@' then .ok { s with colons := 0, percent := false }
  else if c = '%' then .ok { s with percent := true }
  else .ok s

def checkAuthority (s : List Char) : Except UriFault Unit := do
  let scan ← s.foldlM Scan.take {}
  if scan.opened ≠ scan.closed ∨ 1 < scan.colons ∨ s.getLast? = some '@' ∨ scan.percent then
    throw .authority

/-- The visible characters that may not stand in a path. -/
def notInPath : List Char := ['#', '<', '>', '?', '\x60']

/-- The visible characters that may not stand in a query. -/
def notInQuery : List Char := ['"', '#', '<', '>']

def isPathChar (c : Char) : Bool := 0x21 ≤ c.toNat && !notInPath.contains c

def isQueryChar (c : Char) : Bool := 0x21 ≤ c.toNat && !notInQuery.contains c

/-- Checks what follows the authority; a fragment is not looked at. -/
def checkTarget (s : List Char) : Except UriFault Unit :=
  let target := s.takeWhile (· ≠ '#')
  let path := target.takeWhile (· ≠ '?')
  let query := target.drop (path.length + 1)
  if path.all isPathChar && query.all isQueryChar then .ok () else .error .character

/-! ### The target of a handshake -/

def maxLength : Nat := 65534

/-- A URI as far as a handshake needs it. -/
structure Uri where
  scheme : Option (List Char)
  authority : List Char
deriving DecidableEq, Repr, Inhabited

def Uri.read (text : String) : Except UriFault Uri := do
  if maxLength < text.utf8ByteSize then throw .tooLong
  let (scheme, rest) := splitScheme text.toList
  let authority := rest.takeWhile fun c => c ≠ '/' ∧ c ≠ '?' ∧ c ≠ '#'
  checkAuthority authority
  let target := rest.drop authority.length
  if scheme.isNone then
    if !target.isEmpty then throw .format
  else
    if authority.isEmpty then throw .format
    checkTarget target
  return ⟨scheme, authority⟩

/-- Whether the authority of a URI ends with a port. -/
def Uri.hasPort (u : Uri) : Bool :=
  u.authority.contains ':' &&
    let written := (u.authority.reverse.takeWhile (· ≠ ':')).reverse
    let digits :=
      match written with
      | '+' :: digits => digits
      | digits => digits
    (Text.natural? 10 digits).any (· ≤ 65535)

/-- The schemes whose port is known, in small letters only. -/
def knownSchemes : List (List Char) := [['w', 's'], ['w', 's', 's']]

/-- Why a text cannot be the target of a handshake, if it cannot. -/
def refusal? (text : String) : Option Refusal :=
  match Uri.read text with
  | .error cause => some (.uri cause)
  | .ok u =>
      if u.hasPort || u.scheme.any knownSchemes.contains then none else some .scheme

end ConsoleTap.Handshake
