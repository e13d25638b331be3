import ConsoleTap.Toml.Value

/-!
# TOML tables in the making

A document names its tables again and again: in headers, in the paths of headers
and in dotted keys.  Whether a name may be used once more depends on where its
table came from, so tables in the making remember their `Origin`:

* a table that has had its header gets no second one and is not reached by
  dotted keys;
* a table known only from the path of a header may still get its own header,
  and dotted keys lead through it but not to it;
* a table made by a dotted key may be extended by dotted keys only.

Values, inline tables among them, are complete.  A path that meets an array of
tables goes on in the last one.
-/

namespace ConsoleTap.Toml

/-- Where a table in the making came from. -/
inductive Origin where
  | header
  | path
  | dottedKey
deriving DecidableEq, Repr, Inhabited

/-- What a name in a table stands for. -/
inductive Item where
  | value (v : Value)
  | table (origin : Origin) (entries : List (String × Item))
  | tables (elements : List (List (String × Item)))
deriving Inhabited

/-- A table in the making. -/
abbrev Table := List (String × Item)

namespace Table

def get? (t : Table) (name : String) : Option Item := t.lookup name

/-- Puts an item in the place of a name, behind the others if the name is new. -/
def set (name : String) (item : Item) : Table → Table
  | [] => [(name, item)]
  | (other, old) :: rest =>
      if other = name then (other, item) :: rest else (other, old) :: set name item rest

/-- Changes the table at a path, making the tables that are missing on the way.
    `dotted` says whether the path is that of a key. -/
def change (dotted : Bool) (f : Origin → Table → Option Table) :
    (path : List String) → Origin → Table → Option Table
  | [], origin, t => f origin t
  | name :: path, _, t =>
      match t.get? name with
      | none =>
          let origin := if dotted then .dottedKey else .path
          (change dotted f path origin []).map fun sub => t.set name (.table origin sub)
      | some (.value _) => none
      | some (.tables elements) =>
          match elements.getLast? with
          | none => none
          | some last =>
              (change dotted f path .header last).map fun last =>
                t.set name (.tables (elements.dropLast ++ [last]))
      | some (.table origin sub) =>
          if dotted ∧ origin = .header then none
          else (change dotted f path origin sub).map fun sub => t.set name (.table origin sub)

/-- Gives a name within the table at the path of a dotted key its value. -/
def assign (path : List String) (name : String) (v : Value) (t : Table) : Option Table :=
  change true
    (fun origin t =>
      if origin ≠ .dottedKey ∧ path ≠ [] then none
      else
        match t.get? name with
        | some _ => none
        | none => some (t.set name (.value v)))
    path .header t

/-- Opens the table that a header names. -/
def openTable (path : List String) (name : String) (t : Table) : Option Table :=
  change false
    (fun _ t =>
      match t.get? name with
      | none => some (t.set name (.table .header []))
      | some (.table .path sub) => some (t.set name (.table .header sub))
      | some _ => none)
    path .header t

/-- Opens a new table in the array of tables that a header names. -/
def openElement (path : List String) (name : String) (t : Table) : Option Table :=
  change false
    (fun _ t =>
      match t.get? name with
      | none => some (t.set name (.tables [[]]))
      | some (.tables elements) => some (t.set name (.tables (elements ++ [[]])))
      | some _ => none)
    path .header t

end Table

/-! ### Finished tables -/

mutual

def Item.toValue : Item → Value
  | .value v => v
  | .table _ entries => .table (entriesToValues entries)
  | .tables elements => .array (elementsToValues elements)

def entriesToValues : List (String × Item) → List (String × Value)
  | [] => []
  | (name, item) :: rest => (name, item.toValue) :: entriesToValues rest

def elementsToValues : List (List (String × Item)) → List Value
  | [] => []
  | entries :: rest => .table (entriesToValues entries) :: elementsToValues rest

end

def Table.toValue (t : Table) : Value := .table (entriesToValues t)

end ConsoleTap.Toml
