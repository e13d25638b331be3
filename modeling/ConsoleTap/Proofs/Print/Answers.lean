import ConsoleTap.Print.Printout
import ConsoleTap.Proofs.Print.Expansion

/-!
# Trees from the answers to their fetches

A source of properties may answer one handle differently each time it is asked: properties
may change, and a fetch may fail where an earlier one did not.  What a tree is made from is
one answer for each of its fetches, and each fetch is told from the others by the place of
its object.  A source that always answers a handle the same way is the case in which the
place does not matter.
-/

namespace ConsoleTap.Print

open ConsoleTap.Json ConsoleTap.Target

/-- What the fetches bring, each at the place of its object. -/
abbrev Answers := (place : List Nat) → PropertyLookup

/-- The answers for the part of that number, seen from the part. -/
def Answers.within (answers : Answers) (i : Nat) : Answers := fun place => answers (i :: place)

/-- The tree of a remote object, with at most `depth` fetches below one another. -/
def Node.ofAnswers : (answers : Answers) → (depth : Nat) → RemoteObject → Node
  | _, 0, o => unfetched o
  | answers, depth + 1, o =>
      match handle? o with
      | none => unfetched o
      | some objectId =>
          match answers [] objectId with
          | .error fault => .text (failureText fault)
          | .ok properties =>
              .mapping o.className ((valued properties).mapIdx fun i p =>
                (p.1, Node.ofAnswers (answers.within i) depth p.2))

/-- The trees of several objects; the places in each begin with its number. -/
def treesOf (answers : Answers) (depth : Nat) (objects : List RemoteObject) : List Node :=
  objects.mapIdx fun i o => Node.ofAnswers (answers.within i) depth o

/-- The lines of a frame. -/
def answeredLines (answers : Answers) (maxDepth : Nat) (frame : Value) : List String :=
  match Printout.ofFrame frame with
  | .lines ls => ls
  | .call kind args => callLines kind ((treesOf answers maxDepth args).map Rendered.ofNode)

variable {answers : Answers} {source : PropertyLookup} {depth : Nat} {o : RemoteObject}
  {objectId : String} {properties : List PropertyDescriptor} {fault : Fault}

theorem ofAnswers_plain (hplain : depth = 0 ∨ handle? o = none) :
    Node.ofAnswers answers depth o = unfetched o := by
  cases depth with
  | zero => rfl
  | succ depth =>
      rcases hplain with hzero | hnone
      · cases hzero
      · rw [Node.ofAnswers, hnone]

theorem ofAnswers_failed (hhandle : handle? o = some objectId)
    (hfault : answers [] objectId = .error fault) :
    Node.ofAnswers answers (depth + 1) o = .text (failureText fault) := by
  rw [Node.ofAnswers, hhandle]
  simp only [hfault]

theorem ofAnswers_fetched (hhandle : handle? o = some objectId)
    (hproperties : answers [] objectId = .ok properties) :
    Node.ofAnswers answers (depth + 1) o =
      .mapping o.className ((valued properties).mapIdx fun i p =>
        (p.1, Node.ofAnswers (answers.within i) depth p.2)) := by
  rw [Node.ofAnswers, hhandle]
  simp only [hproperties]

/-! ### Sources that always answer the same way -/

theorem ofAnswers_const (source : PropertyLookup) (depth : Nat) (o : RemoteObject) :
    Node.ofAnswers (fun _ => source) depth o = (Expansion.ofObject source depth o).node := by
  induction depth generalizing o with
  | zero => rfl
  | succ depth ih =>
      cases hhandle : handle? o with
      | none => rw [ofAnswers_plain (Or.inr hhandle), ofObject_plain (Or.inr hhandle)]
      | some objectId =>
          cases hsource : source objectId with
          | error fault => rw [ofAnswers_failed hhandle hsource, ofObject_failed hhandle hsource]
          | ok properties =>
              rw [ofAnswers_fetched hhandle hsource, node_fetched hhandle hsource]
              refine congrArg _ (List.ext_getElem? fun i => ?_)
              rw [List.getElem?_mapIdx, List.getElem?_map]
              exact congrArg (Option.map · _) (funext fun p => congrArg (Prod.mk p.1) (ih p.2))

theorem treesOf_const (source : PropertyLookup) (depth : Nat) (objects : List RemoteObject) :
    treesOf (fun _ => source) depth objects =
      objects.map fun o => (Expansion.ofObject source depth o).node := by
  refine List.ext_getElem? fun i => ?_
  rw [treesOf, List.getElem?_mapIdx, List.getElem?_map]
  exact congrArg (Option.map · _) (funext (ofAnswers_const source depth))

theorem answeredLines_const (source : PropertyLookup) (maxDepth : Nat) (frame : Value) :
    answeredLines (fun _ => source) maxDepth frame =
      (Printed.ofFrame source maxDepth frame).lines := by
  rw [answeredLines, Printed.ofFrame]
  cases Printout.ofFrame frame with
  | lines ls => rfl
  | call kind args => simp only [treesOf_const, List.map_map, Function.comp_def]

end ConsoleTap.Print
