import ConsoleTap.Exchange.Step
import ConsoleTap.Print.Printout

/-!
# Trees in the making

While a session waits for properties, the tree of a value is a draft: parts of
it are finished, and in place of the others stand the calls that will bring
them.  All fetches of one level are under way together, and each outcome is put
in the place of its own call, whatever order they come in.

A job is the printout of one frame in the making.

The drafts are what `materialize` and `console_call` have at hand between two
answers.
-/

namespace ConsoleTap.Session

open ConsoleTap.Json ConsoleTap.Target ConsoleTap.Print
open ConsoleTap.Exchange (Outcome)

/-- A tree in the making. -/
inductive Draft where
  | finished (node : Node)
  /-- The properties of an object are being fetched by a call; below them, that
      many hops are left. -/
  | fetching (call : Nat) (objectId : String) (className : Option String) (hops : Nat)
  | mapping (className : Option String) (entries : List (String × Draft))
deriving Inhabited

/-- A fetch under way: the place in a draft where its outcome belongs. -/
structure Fetch where
  objectId : String
  className : Option String
  hops : Nat
deriving Inhabited

namespace Draft

mutual

/-- The tree of a draft, once every part of it is finished. -/
def node? : Draft → Option Node
  | .finished node => some node
  | .fetching .. => none
  | .mapping className entries => (entries? entries).map (.mapping className)

def entries? : List (String × Draft) → Option (List (String × Node))
  | [] => some []
  | (name, d) :: rest =>
      match d.node?, entries? rest with
      | some node, some nodes => some ((name, node) :: nodes)
      | _, _ => none

end

mutual

/-- The calls that a draft waits for, in the order of the tree. -/
def calls : Draft → List Nat
  | .finished _ => []
  | .fetching call _ _ _ => [call]
  | .mapping _ entries => entriesCalls entries

def entriesCalls : List (String × Draft) → List Nat
  | [] => []
  | (_, d) :: rest => d.calls ++ entriesCalls rest

end

mutual

/-- The fetch that a draft waits for by the call of that number. -/
def fetch? (n : Nat) : Draft → Option Fetch
  | .finished _ => none
  | .fetching call objectId className hops =>
      if call = n then some ⟨objectId, className, hops⟩ else none
  | .mapping _ entries => entriesFetch? n entries

def entriesFetch? (n : Nat) : List (String × Draft) → Option Fetch
  | [] => none
  | (_, d) :: rest => (d.fetch? n).or (entriesFetch? n rest)

end

mutual

/-- Puts a draft in the place of a call. -/
def fill (n : Nat) (part : Draft) : Draft → Draft
  | .finished node => .finished node
  | .fetching call objectId className hops =>
      if call = n then part else .fetching call objectId className hops
  | .mapping className entries => .mapping className (entriesFill n part entries)

def entriesFill (n : Nat) (part : Draft) : List (String × Draft) → List (String × Draft)
  | [] => []
  | (name, d) :: rest => (name, fill n part d) :: entriesFill n part rest

end

/-- The draft of a value with so many hops left, given the number of the next
    call, and whether that call is to be begun. -/
def ofObject (hops next : Nat) (o : RemoteObject) : Draft × Option String :=
  match hops, handle? o with
  | hops + 1, some objectId => (.fetching next objectId o.className hops, some objectId)
  | _, _ => (.finished (unfetched o), none)

/-- The drafts of several values, and the handles of the calls to be begun for
    them, in order. -/
def ofObjects (hops : Nat) : (next : Nat) → List RemoteObject → List Draft × List String
  | _, [] => ([], [])
  | next, o :: rest =>
      match ofObject hops next o with
      | (d, some objectId) =>
          let (ds, ids) := ofObjects hops (next + 1) rest
          (d :: ds, objectId :: ids)
      | (d, none) =>
          let (ds, ids) := ofObjects hops next rest
          (d :: ds, ids)

end Draft

/-! ### The outcome of a fetch -/

/-- The properties that the outcome of a fetch brings. -/
def fetchedProperties (outcome : Outcome) : Except Fault (List PropertyDescriptor) :=
  match outcome with
  | .error cause => .error cause
  | .ok reply =>
      match readPropertyList reply with
      | .error cause => .error (.serialization (.mismatch cause))
      | .ok ⟨none⟩ => .error (.invalidResponse "Missing property list")
      | .ok ⟨some properties⟩ => .ok properties

/-- What a fetch leaves in its place: a draft, the handles of the calls to be
    begun for it in order, and a notice if it failed. -/
structure Growth where
  part : Draft
  handles : List String := []
  notice : Option Notice := none

/-- What the outcome of a fetch leaves in its place, given the number of the next
    call. -/
def Fetch.grow (f : Fetch) (next : Nat) (outcome : Outcome) : Growth :=
  match fetchedProperties outcome with
  | .error cause =>
      { part := .finished (.text (failureText cause))
        notice := some (.ofFailedFetch f.objectId cause) }
  | .ok properties =>
      let named := valued properties
      let (drafts, handles) := Draft.ofObjects f.hops next (named.map Prod.snd)
      { part := .mapping f.className ((named.map Prod.fst).zip drafts), handles := handles }

/-! ### Jobs -/

/-- The printout of a frame in the making. -/
inductive Job where
  | lines (ls : List String)
  | call (kind : String) (args : List Draft)
deriving Inhabited

namespace Job

/-- The lines of a job, once every value in it is finished. -/
def lines? : Job → Option (List String)
  | .lines ls => some ls
  | .call kind args => (args.mapM Draft.node?).map fun nodes => callLines kind (nodes.map Rendered.ofNode)

def calls : Job → List Nat
  | .lines _ => []
  | .call _ args => args.flatMap Draft.calls

def fetch? (n : Nat) : Job → Option Fetch
  | .lines _ => none
  | .call _ args => args.findSome? (Draft.fetch? n)

def fill (n : Nat) (part : Draft) : Job → Job
  | .lines ls => .lines ls
  | .call kind args => .call kind (args.map (Draft.fill n part))

/-- The job of a frame, given the hops allowed and the number of the next call,
    and the handles of the calls to be begun for it. -/
def ofFrame (hops next : Nat) (frame : Value) : Job × List String :=
  match Printout.ofFrame frame with
  | .lines ls => (.lines ls, [])
  | .call kind args =>
      let (drafts, handles) := Draft.ofObjects hops next args
      (.call kind drafts, handles)

end Job
end ConsoleTap.Session
