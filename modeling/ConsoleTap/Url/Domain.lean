import ConsoleTap.Url.Domain.Joiner
import ConsoleTap.Url.Domain.Mapping
import ConsoleTap.Url.Punycode

/-!
# Domain names

A domain name is written in ASCII, whatever script the user writes it in: its
characters are mapped to those that stand for them in names, what they make up is
composed, and every label that still has others than ASCII is written in punycode
behind `xn--`.  A label that is in punycode already has to stand for one that this
leaves as it is.
-/

namespace ConsoleTap.Url

/-- The ASCII characters that no domain name holds. -/
def isForbidden (c : Char) : Bool :=
  c.toNat ≤ 0x20 || c.toNat = 0x7F ||
    ['%', '#', '/', ':', '<', '>', '?', '@', '[', '\\', ']', '^', '|'].contains c

/-- The characters of a domain name, mapped. -/
def mapped? (s : List Char) : Option (List Char) :=
  (s.mapM fun c =>
    match mapping c with
    | .kept => some [c]
    | .replaced cs => some cs
    | .refused => none).map List.flatten

/-- A label as users write it, and as it is written in ASCII. -/
structure Label where
  plain : List Char
  ascii : List Char
deriving DecidableEq, Repr, Inhabited

/-- What begins a label in punycode. -/
def punycodeMark : List Char := ['x', 'n', '-', '-']

def isAscii (c : Char) : Bool := c.toNat < 0x80

/-- Whether a label with others than ASCII characters can be one. -/
def isProper (label : List Char) : Bool :=
  !label.head?.any isMark && joinersMatter [] label

/-- The label that a punycode stands for. -/
def plainLabel? (punycode : List Char) : Option (List Char) :=
  (Punycode.decode? punycode).filter fun label =>
    label.any (!isAscii ·) && label.all (fun c => mapping c = .kept) &&
      Text.composed label = label && isProper label && Punycode.encode label = punycode

/-- Reads a label whose characters are mapped and composed. -/
def Label.read? (s : List Char) : Option Label :=
  if s.all isAscii then
    if punycodeMark.isPrefixOf s then
      (plainLabel? (s.drop punycodeMark.length)).map fun label => ⟨label, s⟩
    else some ⟨s, s⟩
  else if punycodeMark.isPrefixOf s then none
  else if isProper s then some ⟨s, punycodeMark ++ Punycode.encode s⟩
  else none

/-- Whether the labels of a domain name keep their look, if it has characters that
    are written from right to left. -/
def allKeepLook (labels : List Label) : Bool :=
  !(labels.any fun label => label.plain.any fun c => (direction c).isRightward) ||
    labels.all fun label => keepsLook label.plain

def asciiDomain? (s : List Char) : Option (List Char) := do
  let name := Text.composed (← mapped? s)
  let labels ← (Text.splitOn '.' name).mapM Label.read?
  if name.any isForbidden || !allKeepLook labels then none
  else some (['.'].intercalate (labels.map Label.ascii))

end ConsoleTap.Url
