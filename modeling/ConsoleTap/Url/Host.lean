import ConsoleTap.Url.Address4
import ConsoleTap.Url.Address6
import ConsoleTap.Url.Domain
import ConsoleTap.Url.Percent

/-!
# Hosts

The host of a URL is an IPv6 address in brackets, an IPv4 address or a domain
name.  In a scheme that knows nothing of these the host is any text without the
characters that delimit the parts of a URL.
-/

namespace ConsoleTap.Url

inductive UrlFault where
  | emptyHost
  | domain
  | port
  | address4
  | address6
  | hostCharacter
  /-- There is no scheme in front. -/
  | relative
deriving DecidableEq, Repr, Inhabited

def UrlFault.message : UrlFault → String
  | .emptyHost => "empty host"
  | .domain => "invalid international domain name"
  | .port => "invalid port number"
  | .address4 => "invalid IPv4 address"
  | .address6 => "invalid IPv6 address"
  | .hostCharacter => "invalid domain character"
  | .relative => "relative URL without a base"

inductive Host where
  | domain (name : String)
  | address4 (n : Nat)
  | address6 (numbers : List Nat)
deriving DecidableEq, Repr, Inhabited

namespace Host

def text : Host → String
  | .domain name => name
  | .address4 n => address4Text n
  | .address6 numbers => "[" ++ address6Text numbers ++ "]"

/-- Reads an address in brackets, behind the first one. -/
def readBracketed (s : List Char) : Except UrlFault Host :=
  if s.getLast? = some ']' then
    match address6? s.dropLast with
    | some numbers => .ok (.address6 numbers)
    | none => .error .address6
  else .error .address6

/-- Reads a domain name or an IPv4 address. -/
def readName (s : List Char) : Except UrlFault Host :=
  match (String.fromUTF8? ⟨(decode s).toArray⟩).bind fun name => asciiDomain? name.toList with
  | none => .error .domain
  | some [] => .error .emptyHost
  | some name =>
      if endsInNumber name then
        match address4? name with
        | some n => .ok (.address4 n)
        | none => .error .address4
      else .ok (.domain (String.ofList name))

def read (s : List Char) : Except UrlFault Host :=
  match s with
  | '[' :: rest => readBracketed rest
  | s => readName s

/-- The characters that no host of any scheme holds. -/
def delimiters : List Char :=
  ['\x00', '\t', '\n', '\r', ' ', '#', '/', ':', '<', '>', '?', '@', '[', '\\', ']', '^', '|']

/-- Whether a text is the host of a scheme that knows nothing of hosts. -/
def checkOpaque (s : List Char) : Except UrlFault Unit :=
  match s with
  | '[' :: rest => (readBracketed rest).map fun _ => ()
  | s => if s.any delimiters.contains then .error .hostCharacter else .ok ()

end Host
end ConsoleTap.Url
