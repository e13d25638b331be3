import ConsoleTap.Files.Fault
import ConsoleTap.Text.Lines

/-!
# Trees of files

A file system as a value: a tree of directories and files, the directory in which
relative paths begin, and what the system refuses to do for the user.  A path is
followed name by name; every name but the last must lead to a directory, and so
must the last one if a slash or a dot follows it.

Not modelled: links, and other users, whose work would change the tree in between.
-/

namespace ConsoleTap.Files

/-- A file or a directory. A file that holds no text has the content `none`. -/
inductive Entry where
  | file (content : Option String)
  | directory (entries : List (String × Entry))
deriving Inhabited

/-- A place in a tree: the names on the way to it. -/
abbrev Place := List String

/-- What a user can want at a place. -/
inductive Deed where
  /-- To go on from a directory. -/
  | enter
  | read
  | write
  /-- To make a file or directory there. -/
  | make
deriving DecidableEq, Repr, Inhabited

/-- A tree of files, and the directory in which relative paths begin. -/
structure Tree where
  root : List (String × Entry) := []
  workingDirectory : Place := []
  /-- What the system refuses, for want of a permission or of room or for any other
      reason that does not lie in the tree. -/
  refuses : Deed → Place → Option SystemFault := fun _ _ => none
deriving Inhabited

def entryAt? (entries : List (String × Entry)) : Place → Option Entry
  | [] => some (.directory entries)
  | name :: place =>
      match entries.lookup name with
      | none => none
      | some (.file content) => if place.isEmpty then some (.file content) else none
      | some (.directory sub) => entryAt? sub place

/-- Puts an entry at a place, making directories on the way. -/
def insertAt (entry : Entry) : Place → List (String × Entry) → List (String × Entry)
  | [], entries => entries
  | [name], entries => (name, entry) :: entries.filter fun e => e.1 ≠ name
  | name :: place, entries =>
      let sub :=
        match entries.lookup name with
        | some (.directory sub) => sub
        | _ => []
      (name, .directory (insertAt entry place sub)) :: entries.filter fun e => e.1 ≠ name

namespace Tree

def entry? (t : Tree) (place : Place) : Option Entry := entryAt? t.root place

/-- Asks the system for something at a place. -/
def allow (t : Tree) (deed : Deed) (place : Place) : Except FileFault Unit :=
  match t.refuses deed place with
  | none => .ok ()
  | some cause => .error (.refused cause)

def insert (t : Tree) (place : Place) (entry : Entry) : Tree :=
  { t with root := insertAt entry place t.root }

/-! ### Following paths -/

def maxNameLength : Nat := 255

def maxPathLength : Nat := 4095

def isDirectoryAt (t : Tree) (place : Place) : Bool :=
  match t.entry? place with
  | some (.directory _) => true
  | _ => false

/-- Where a name leads from a directory. -/
def nextFrom (t : Tree) (place : Place) (name : String) : Except FileFault Place :=
  if name = "." then .ok place
  else if name = ".." then .ok place.dropLast
  else if maxNameLength < name.utf8ByteSize then .error .nameTooLong
  else if (t.entry? (place ++ [name])).isSome then .ok (place ++ [name])
  else .error .notFound

/-- One step along a path. The empty name behind a slash only asks for a directory. -/
def stepFrom (t : Tree) (place : Place) (name : String) : Except FileFault Place :=
  if !t.isDirectoryAt place then .error .notADirectory
  else if name = "" then .ok place
  else do
    t.allow .enter place
    t.nextFrom place name

/-- The names of a path, empty ones where slashes stand side by side or at an end. -/
def names (path : String) : List String := (Text.splitOn '/' path.toList).map String.ofList

/-- The path of a name in the directory at a path. -/
def join (directory name : String) : String :=
  if directory = "" then name
  else if directory.toList.getLast? = some '/' then directory ++ name
  else directory ++ "/" ++ name

/-- Where a path begins. -/
def start (t : Tree) (path : String) : Place :=
  if path.toList.head? = some '/' then [] else t.workingDirectory

/-- Whether a path can be followed at all. -/
def checkPath (path : String) : Except FileFault Unit :=
  if path.toList.contains '\x00' then .error .nulInName
  else if path = "" then .error .notFound
  else if maxPathLength < path.utf8ByteSize then .error .nameTooLong
  else .ok ()

def resolve (t : Tree) (path : String) : Except FileFault Place := do
  checkPath path
  (names path).foldlM t.stepFrom (t.start path)

/-! ### Files -/

def readText (t : Tree) (path : String) : Except FileFault String := do
  let place ← t.resolve path
  t.allow .read place
  match t.entry? place with
  | some (.file (some text)) => .ok text
  | some (.file none) => .error .notText
  | some (.directory _) => .error .isADirectory
  | none => .error .notFound

def isFile (t : Tree) (path : String) : Bool :=
  match t.resolve path with
  | .ok place =>
      match t.entry? place with
      | some (.file _) => true
      | _ => false
  | .error _ => false

def isDirectory (t : Tree) (path : String) : Bool :=
  match t.resolve path with
  | .ok place => t.isDirectoryAt place
  | .error _ => false

/-- The names of a path up to the last one that is not empty, and that one. -/
def splitLast? (path : String) : Option (List String × String) :=
  match ((names path).reverse.dropWhile (· = "")).reverse with
  | [] => none
  | ns => some (ns.dropLast, ns.getLastD "")

/-- Opens the file at a path that ends with a name, to write at its end, or makes it. -/
def openToAppend (t : Tree) (path : String) : Except FileFault Unit := do
  checkPath path
  match splitLast? path with
  | none => .error .isADirectory
  | some (before, name) =>
      let place ← before.foldlM t.stepFrom (t.start path)
      match t.stepFrom place name with
      | .ok next => if t.isDirectoryAt next then .error .isADirectory else t.allow .write next
      | .error .notFound => t.allow .make (place ++ [name])
      | .error fault => .error fault

/-! ### Making directories -/

/-- Makes the directory at a path; the directory that holds it must exist. -/
def makeDirectory (t : Tree) (path : String) : Except FileFault Tree := do
  checkPath path
  match splitLast? path with
  | none => .error .alreadyExists
  | some (before, name) =>
      let place ← before.foldlM t.stepFrom (t.start path)
      if !t.isDirectoryAt place then .error .notADirectory
      else do
        t.allow .enter place
        match t.nextFrom place name with
        | .ok _ => .error .alreadyExists
        | .error .notFound => do
            t.allow .make (place ++ [name])
            .ok (t.insert (place ++ [name]) (.directory []))
        | .error fault => .error fault

/-- The path of the directory that holds the one at a path, if a name is left. -/
def parentPath? (path : String) : Option String :=
  let absolute := path.toList.head? = some '/'
  let kept :=
    match names path with
    | [] => []
    | first :: rest =>
        (if first = "" then [] else [first]) ++ rest.filter fun n => n ≠ "" ∧ n ≠ "."
  match kept with
  | [] => none
  | kept =>
      let parent := Text.joined "/" kept.dropLast
      some (if absolute then "/" ++ parent else parent)

/-- Makes the directory at a path and those that are missing on the way, in at
    most `fuel` rounds. -/
def makeDirectoriesWithin : (fuel : Nat) → Tree → (path : String) → Except FileFault Tree
  | 0, _, _ => .error .notFound
  | fuel + 1, t, path =>
      if path = "" then .ok t
      else
        match t.makeDirectory path with
        | .ok t => .ok t
        | .error .notFound =>
            match parentPath? path with
            | none => .error .noTree
            | some parent => do
                let t ← makeDirectoriesWithin fuel t parent
                match t.makeDirectory path with
                | .ok t => .ok t
                | .error fault => if t.isDirectory path then .ok t else .error fault
        | .error fault => if t.isDirectory path then .ok t else .error fault

/-- Makes the directory at a path and those that are missing on the way. The empty
    path stands for the directory that is there already. -/
def makeDirectories (t : Tree) (path : String) : Except FileFault Tree :=
  makeDirectoriesWithin ((names path).length + 1) t path

end Tree
end ConsoleTap.Files
