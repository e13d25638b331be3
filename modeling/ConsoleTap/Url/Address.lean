import ConsoleTap.Url.Host

/-!
# Addresses

An address is a URL as users write it.  Reading one repairs what it can: white
space around it and line breaks in it are dropped, backslashes count as slashes,
any number of slashes may stand behind the scheme, and characters that may not
stand in a URL are encoded.  Addresses of web sockets are read in full; of one
with another scheme the host and the port are checked, and the scheme is what is
known of it.
-/

namespace ConsoleTap.Url

/-- The URL of a web socket. Its parts are encoded, and its path begins with a
    slash. -/
structure SocketUrl where
  scheme : String
  user : String := ""
  password : String := ""
  host : Host
  /-- The port, unless it is that of the scheme. -/
  port : Option Nat := none
  path : String := "/"
  query : Option String := none
  fragment : Option String := none
deriving DecidableEq, Repr, Inhabited

/-- What an address is. -/
inductive Address where
  | socket (url : SocketUrl)
  | other (scheme : String)
deriving DecidableEq, Repr, Inhabited

def Address.scheme : Address → String
  | .socket url => url.scheme
  | .other scheme => scheme

/-! ### The text of a URL -/

namespace SocketUrl

/-- The user and the password in front of the host. -/
def credentials (u : SocketUrl) : String :=
  if u.user = "" ∧ u.password = "" then ""
  else u.user ++ (if u.password = "" then "" else ":" ++ u.password) ++ "@"

def text (u : SocketUrl) : String :=
  u.scheme ++ "://" ++ u.credentials ++ u.host.text ++
    (u.port.elim "" fun n => ":" ++ toString n) ++ u.path ++
    (u.query.elim "" fun q => "?" ++ q) ++ (u.fragment.elim "" fun f => "#" ++ f)

end SocketUrl

/-! ### Schemes -/

/-- Whether a character may stand in a scheme, behind its first letter. -/
def isSchemeChar (c : Char) : Bool := c.isAlphanum || c = '+' || c = '-' || c = '.'

/-- The scheme in front of a text, in small letters, and what follows its colon. -/
def scheme? (s : List Char) : Option (String × List Char) :=
  match s with
  | [] => none
  | c :: _ =>
      if !c.isAlpha then none
      else
        match s.dropWhile isSchemeChar with
        | ':' :: rest => some (String.ofList ((s.takeWhile isSchemeChar).map Char.toLower), rest)
        | _ => none

/-- The schemes of web sockets with their ports. -/
def socketSchemes : List (String × Nat) := [("ws", 80), ("wss", 443)]

/-- The other schemes whose hosts are domain names and addresses. -/
def webSchemes : List (String × Nat) := [("http", 80), ("https", 443), ("ftp", 21)]

/-! ### Authorities -/

/-- Whether a character delimits the authority of a URL. In the schemes that know
    hosts a backslash counts as a slash. -/
def endsAuthority (knowsHosts : Bool) (c : Char) : Bool :=
  c = '/' || c = '?' || c = '#' || (knowsHosts && c = '\\')

/-- What stands before the last at sign of an authority, if there is one, and what
    stands behind it. -/
def splitUser (authority : List Char) : Option (List Char) × List Char :=
  let behind := (authority.reverse.takeWhile (· ≠ '@')).reverse
  if behind.length = authority.length then (none, authority)
  else (some (authority.take (authority.length - behind.length - 1)), behind)

/-- The host before a colon that stands in no brackets, and the text behind that
    colon, if there is one. -/
def splitPort (inBrackets : Bool) : List Char → List Char × Option (List Char)
  | [] => ([], none)
  | c :: rest =>
      if c = ':' && !inBrackets then ([], some rest)
      else
        let (host, port) := splitPort (c = '[' || (inBrackets && c ≠ ']')) rest
        (c :: host, port)

/-- Reads a port, which may be left out behind its colon. -/
def readPort (s : List Char) : Except UrlFault (Option Nat) :=
  if s.isEmpty then .ok none
  else
    match Text.natural? 10 s with
    | some n => if n ≤ 65535 then .ok (some n) else .error .port
    | none => .error .port

def readHostAndPort (s : List Char) : Except UrlFault (Host × Option Nat) := do
  let (host, port) := splitPort false s
  if host.isEmpty then throw .emptyHost
  let host ← Host.read host
  return (host, ← (port.map readPort).getD (.ok none))

/-- Checks the authority of a scheme that knows nothing of hosts; `goesOn` says
    whether anything follows it. -/
def checkAuthority (authority : List Char) (goesOn : Bool) : Except UrlFault Unit := do
  let (user, behind) := splitUser authority
  if user = some [] && behind.isEmpty && goesOn then throw .emptyHost
  let (host, port) := splitPort false behind
  Host.checkOpaque host
  if host.isEmpty && port.isSome then throw .emptyHost
  let _ ← (port.map fun p => readPort (p.takeWhile (· ≠ '\\'))).getD (.ok none)
  if host.isEmpty && user.any (fun u => u ≠ [] ∧ u ≠ [':']) then throw .emptyHost

/-! ### Paths -/

/-- The pieces of a text between its slashes of either kind. -/
def segments (s : List Char) : List (List Char) :=
  Text.splitOn '/' (s.map fun c => if c = '\\' then '/' else c)

/-- Whether a segment stands for the directory it is in. -/
def isHere (segment : List Char) : Bool :=
  [".", "%2e"].contains (String.ofList (segment.map Char.toLower))

/-- Whether a segment stands for the directory above. -/
def isUp (segment : List Char) : Bool :=
  ["..", ".%2e", "%2e.", "%2e%2e"].contains (String.ofList (segment.map Char.toLower))

/-- Follows the segments of a path from a directory, which is given by its names in
    reverse. At the end a dot leaves the empty name behind. -/
def follow (above : List (List Char)) : List (List Char) → List (List Char)
  | [] => above.reverse
  | [segment] =>
      if isUp segment then ([] :: above.tail).reverse
      else if isHere segment then ([] :: above).reverse
      else (segment :: above).reverse
  | segment :: rest =>
      if isUp segment then follow above.tail rest
      else if isHere segment then follow above rest
      else follow (segment :: above) rest

/-- The path that a text stands for, which may begin with a slash or not. -/
def pathOf (s : List Char) : String :=
  let segments :=
    match segments s with
    | [] :: rest => if s.isEmpty then [[]] else rest
    | segments => segments
  String.ofList ((follow [] (segments.map (encode pathSet))).flatMap ('/' :: ·))

/-! ### Reading -/

/-- Reads what follows the slashes of the URL of a web socket. -/
def readSocket (scheme : String) (defaultPort : Nat) (s : List Char) : Except UrlFault SocketUrl := do
  let authority := s.takeWhile fun c => !endsAuthority true c
  let behind := s.drop authority.length
  let (userInfo, hostAndPort) := splitUser authority
  let (host, port) ← readHostAndPort hostAndPort
  let userInfo := userInfo.getD []
  let user := userInfo.takeWhile (· ≠ ':')
  let target := behind.takeWhile (· ≠ '#')
  return {
    scheme := scheme
    user := String.ofList (encode userSet user)
    password := String.ofList (encode userSet (userInfo.drop (user.length + 1)))
    host := host
    port := port.filter (· ≠ defaultPort)
    path := pathOf (target.takeWhile (· ≠ '?'))
    query :=
      match target.dropWhile (· ≠ '?') with
      | _ :: query => some (String.ofList (encode querySet query))
      | [] => none
    fragment :=
      match behind.dropWhile (· ≠ '#') with
      | _ :: fragment => some (String.ofList (encode fragmentSet fragment))
      | [] => none }

/-- Checks what follows the scheme of files: a host, if two slashes come first. A
    letter of a drive is none. -/
def checkFile (s : List Char) : Except UrlFault Unit :=
  let isSlash : Char → Bool := fun c => c = '/' || c = '\\'
  match s with
  | a :: b :: rest =>
      if isSlash a && isSlash b then
        match rest.takeWhile fun c => !endsAuthority true c with
        | [] => .ok ()
        | [letter, mark] =>
            if letter.isAlpha && (mark = ':' || mark = '|') then .ok ()
            else (Host.read [letter, mark]).map fun _ => ()
        | host => (Host.read host).map fun _ => ()
      else .ok ()
  | _ => .ok ()

/-- Checks what follows a scheme that knows nothing of hosts. -/
def checkOther : List Char → Except UrlFault Unit
  | '/' :: '/' :: rest =>
      let authority := rest.takeWhile fun c => !endsAuthority false c
      checkAuthority authority (authority.length < rest.length)
  | _ => .ok ()

/-- The text without what is dropped before it is read: control characters and
    spaces at its ends, and tabs and line breaks everywhere. -/
def cleaned (s : List Char) : List Char :=
  let isEnd : Char → Bool := fun c => c.toNat ≤ 0x20
  (((s.dropWhile isEnd).reverse.dropWhile isEnd).reverse).filter fun c =>
    c ≠ '\t' ∧ c ≠ '\n' ∧ c ≠ '\r'

def Address.read (text : String) : Except UrlFault Address :=
  match scheme? (cleaned text.toList) with
  | none => .error .relative
  | some (scheme, rest) =>
      let behindSlashes := rest.dropWhile fun c => c = '/' || c = '\\'
      match socketSchemes.lookup scheme, webSchemes.lookup scheme with
      | some port, _ => (readSocket scheme port behindSlashes).map .socket
      | none, some port =>
          (readSocket scheme port behindSlashes).map fun _ => .other scheme
      | none, none =>
          ((if scheme = "file" then checkFile rest else checkOther rest).map fun _ => .other scheme)

end ConsoleTap.Url
