import ConsoleTap.Proofs.Print.Answers
import ConsoleTap.Proofs.Session.Dispatch

/-!
# The answers in a session

In a session each fetch is a call of its own, and calls for one handle may end differently.
The outcomes of the calls are answers to the fetches, each at the place of its object; so
what holds of the lines of a frame for any answers holds of the lines that a session hands
over for it.
-/

namespace ConsoleTap.Session

open ConsoleTap.Json ConsoleTap.Target ConsoleTap.Print
open ConsoleTap.Exchange (Outcome)

variable {outcome? : Nat → Option Outcome} {hops : Nat} {objects : List RemoteObject}
  {fetches : Fetches} {nodes : List Node} {frame : Value} {lines : List String}

/-- The answers for the first of several objects, and those for the others. -/
def consAnswers (first rest : Answers) : Answers
  | [] => rest []
  | 0 :: place => first place
  | (i + 1) :: place => rest (i :: place)

theorem treesOf_consAnswers (first rest : Answers) (hops : Nat) (o : RemoteObject)
    (objects : List RemoteObject) :
    treesOf (consAnswers first rest) hops (o :: objects) =
      Node.ofAnswers first hops o :: treesOf rest hops objects := by
  rw [treesOf, List.mapIdx_cons]
  rfl

/-- The answer to the fetch for an object, and those to the fetches for what it brings. -/
def bringing (properties : List PropertyDescriptor) (below : Answers) : Answers
  | [] => fun _ => .ok properties
  | i :: place => below (i :: place)

theorem ofAnswers_bringing {o : RemoteObject} {objectId : String} (hhandle : handle? o = some objectId)
    (properties : List PropertyDescriptor) (below : Answers) (hops : Nat) :
    Node.ofAnswers (bringing properties below) (hops + 1) o =
      .mapping o.className (((valued properties).map Prod.fst).zip
        (treesOf below hops ((valued properties).map Prod.snd))) := by
  have hproperties : bringing properties below [] objectId = .ok properties := rfl
  rw [ofAnswers_fetched hhandle hproperties]
  refine congrArg _ (List.ext_getElem? fun i => ?_)
  rw [List.zip, List.getElem?_zipWith, treesOf, List.getElem?_mapIdx, List.getElem?_mapIdx,
    List.getElem?_map, List.getElem?_map]
  cases (valued properties)[i]? <;> rfl

/-- Trees from the outcomes of calls are trees from answers. -/
theorem Expanded.exists_answers (h : Expanded outcome? hops objects fetches nodes) :
    ∃ answers, nodes = treesOf answers hops objects := by
  induction h with
  | nil => exact ⟨fun _ _ => .error .cancelled, rfl⟩
  | plain hplain _ ih =>
      obtain ⟨answers, rfl⟩ := ih
      refine ⟨consAnswers answers answers, ?_⟩
      rw [treesOf_consAnswers, ofAnswers_plain hplain]
  | failed hhandle houtcome hcause hrest ih =>
      rename_i cause _ _ _
      obtain ⟨answers, rfl⟩ := ih
      refine ⟨consAnswers (fun _ _ => .error cause) answers, ?_⟩
      rw [treesOf_consAnswers, ofAnswers_failed hhandle rfl]
  | fetched hhandle houtcome hproperties hbelow hrest ihbelow ih =>
      rename_i properties _ _ _ _ _
      obtain ⟨below, rfl⟩ := ihbelow
      obtain ⟨answers, rfl⟩ := ih
      refine ⟨consAnswers (bringing properties below) answers, ?_⟩
      rw [treesOf_consAnswers, ofAnswers_bringing hhandle]

theorem LinesOf.exists_answers (h : LinesOf outcome? hops frame fetches lines) :
    ∃ answers, lines = answeredLines answers hops frame := by
  unfold LinesOf at h
  unfold answeredLines
  generalize Printout.ofFrame frame = printout at h ⊢
  cases printout with
  | lines ls => exact ⟨fun _ _ => .error .cancelled, h.2⟩
  | call kind args =>
      obtain ⟨nodes, hexpanded, rfl⟩ := h
      obtain ⟨answers, rfl⟩ := hexpanded.exists_answers
      exact ⟨answers, rfl⟩

/-- The lines that a session hands over for a frame are its lines from some answers. -/
theorem Group.exists_answers {options : Options} {as : List Action} {s : State} {i : Nat}
    (h : Group options as s i lines) :
    ∃ frame answers, s.core.forwarded[i]? = some frame ∧
      lines = answeredLines answers options.maxDepth frame := by
  obtain ⟨frame, fetches, hframe, -, hlines⟩ := h
  obtain ⟨answers, hanswers⟩ := hlines.exists_answers
  exact ⟨frame, answers, hframe, hanswers⟩

end ConsoleTap.Session
