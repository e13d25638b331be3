import ConsoleTap.Proofs.Print.Answers
import ConsoleTap.Proofs.Text.Lines

/-!
# Console calls in print

The arguments of a console call are printed in two places: those that fit in a line on the
first line of the call, and the others as blocks below it, in both in the order of the
arguments.  No line of a block is lost or broken by the indentation, so the texts of the
blocks can be read off from the lines.  Which place it is depends on the tree of the
argument only; the text of a failed fetch always fits in the line.
-/

namespace ConsoleTap.Print

open ConsoleTap.Json ConsoleTap.Target

variable {answers : Answers} {maxDepth : Nat} {frame : Value} {call : ConsoleCall}

/-- The arguments of a call as they are shown. -/
def renderedArgs (answers : Answers) (maxDepth : Nat) (args : List RemoteObject) : List Rendered :=
  (treesOf answers maxDepth args).map Rendered.ofNode

theorem answeredLines_of_call (hframe : Unsolicited.ofFrame frame = .ok (.consoleCall call))
    (hargs : call.args ≠ []) :
    answeredLines answers maxDepth frame =
      callLines call.kind (renderedArgs answers maxDepth call.args) := by
  have hprintout : Printout.ofFrame frame = .call call.kind call.args := by
    rw [Printout.ofFrame, hframe]
    simp [Printout.ofUnsolicited, hargs]
  rw [answeredLines, hprintout]
  rfl

/-- Blocks are mappings, and arrays and objects that were sent as they are. -/
theorem isBlock_ofNode_iff (node : Node) :
    (Rendered.ofNode node).isBlock = true ↔
      (∃ className entries, node = .mapping className entries) ∨
        (∃ items, node = .inline (.array items)) ∨ ∃ members, node = .inline (.object members) := by
  cases node with
  | inline v => cases v <;> simp [Rendered.ofNode]
  | text s => simp [Rendered.ofNode]
  | truncated => simp [Rendered.ofNode]
  | mapping className entries =>
      refine iff_of_true ?_ (Or.inl ⟨className, entries, rfl⟩)
      cases className with
      | none => rfl
      | some className =>
          rw [Rendered.ofNode]
          split <;> rfl

/-- The texts of the arguments that fit in the line, in order. -/
def withinTexts (args : List Rendered) : List String :=
  (args.filter fun a => !a.isBlock).map Rendered.text

/-- The texts of the arguments that are blocks, in order. -/
def blockTexts (args : List Rendered) : List String := (args.filter Rendered.isBlock).map Rendered.text

/-- The first line of a call: its kind, and what fits in the line. -/
def headerLine (kind within : String) : String :=
  if within = "" then "[console." ++ kind ++ "]" else "[console." ++ kind ++ "] " ++ within

theorem callLines_eq (kind : String) (args : List Rendered) :
    callLines kind args = headerLine kind (Text.joined " " (withinTexts args)) ::
      ((blockTexts args).flatMap Text.lines).map fun line => "    " ++ line := by
  have hspace : ∀ within, "[console." ++ kind ++ "] " ++ within =
      "[console." ++ kind ++ "]" ++ " " ++ within := by
    intro within
    calc "[console." ++ kind ++ "] " ++ within
        = "[console." ++ kind ++ ("]" ++ " ") ++ within := rfl
      _ = "[console." ++ kind ++ "]" ++ " " ++ within := by simp only [String.append_assoc]
  rw [callLines, headerLine, hspace, blockTexts, List.map_flatMap, List.flatMap_map]
  rfl

/-- What fits in the line is in the first line, if it is not empty. -/
theorem exists_headerLine_eq {kind text : String} {texts : List String} (h : text ∈ texts)
    (htext : text ≠ "") :
    ∃ before after, headerLine kind (Text.joined " " texts) = before ++ text ++ after := by
  obtain ⟨before, after, hjoined⟩ := Text.exists_joined_eq " " h
  have hne : Text.joined " " texts ≠ "" := by
    rw [hjoined]
    simp [htext]
  refine ⟨"[console." ++ kind ++ "] " ++ before, after, ?_⟩
  rw [headerLine, if_neg hne, hjoined]
  simp only [String.append_assoc]

theorem failureText_ne_empty (fault : Fault) : failureText fault ≠ "" := by
  rw [failureText]
  split <;> simp

/-! ### The place of an argument -/

/-- A call with arguments is printed as a first line and the lines of the blocks below it.  The
    first line is the kind of the call, and behind a space the texts of the arguments that fit in
    the line, joined by spaces, unless that is empty.  Each of the other lines is indented by four
    spaces and is one line; without the spaces and joined by line feeds they are the texts of the
    blocks.  An argument is a block exactly if its tree is a mapping or an array or object that was
    sent as it is; so the text of an argument whose fetch failed is in the first line. -/
theorem arguments_in_place (answers : Answers) (maxDepth : Nat)
    (hframe : Unsolicited.ofFrame frame = .ok (.consoleCall call)) (hargs : call.args ≠ []) :
    ∃ header blocks,
      answeredLines answers maxDepth frame = header :: blocks.map (fun line => "    " ++ line) ∧
      header = headerLine call.kind
        (Text.joined " " (withinTexts (renderedArgs answers maxDepth call.args))) ∧
      (∀ line ∈ blocks, '\n' ∉ ("    " ++ line).toList) ∧
      Text.joined "\n" blocks =
        Text.joined "\n" (blockTexts (renderedArgs answers maxDepth call.args)) ∧
      (∀ i arg, call.args[i]? = some arg →
        (renderedArgs answers maxDepth call.args)[i]? =
          some (Rendered.ofNode (Node.ofAnswers (answers.within i) maxDepth arg))) ∧
      (∀ node, (Rendered.ofNode node).isBlock = true ↔
        (∃ className entries, node = .mapping className entries) ∨
          (∃ items, node = .inline (.array items)) ∨
          ∃ members, node = .inline (.object members)) ∧
      (∀ i arg objectId fault, call.args[i]? = some arg → 0 < maxDepth →
        handle? arg = some objectId → answers [i] objectId = .error fault →
        (renderedArgs answers maxDepth call.args)[i]? = some ⟨failureText fault, false⟩ ∧
          ∃ before after, header = before ++ failureText fault ++ after) ∧
      ∀ source, answeredLines (fun _ => source) maxDepth frame =
        (Printed.ofFrame source maxDepth frame).lines := by
  have hrendered : ∀ i arg, call.args[i]? = some arg →
      (renderedArgs answers maxDepth call.args)[i]? =
        some (Rendered.ofNode (Node.ofAnswers (answers.within i) maxDepth arg)) := by
    intro i arg harg
    rw [renderedArgs, treesOf, List.getElem?_map, List.getElem?_mapIdx, harg]
    rfl
  refine ⟨_, _, (answeredLines_of_call hframe hargs).trans (callLines_eq _ _), rfl, ?_,
    Text.joined_flatMap_lines _, hrendered, isBlock_ofNode_iff, ?_,
    fun source => answeredLines_const source maxDepth frame⟩
  · intro line hline
    obtain ⟨text, -, hline⟩ := List.mem_flatMap.mp hline
    rw [String.toList_append, List.mem_append, not_or]
    exact ⟨by decide, Text.not_mem_of_mem_lines hline⟩
  · -- with a hop left, the argument is fetched and the text of the failure is its tree
    intro i arg objectId fault harg hdepth hhandle hfault
    obtain ⟨depth, rfl⟩ := Nat.exists_eq_succ_of_ne_zero (Nat.pos_iff_ne_zero.mp hdepth)
    have htext := hrendered i arg harg
    rw [ofAnswers_failed hhandle hfault] at htext
    refine ⟨htext, exists_headerLine_eq ?_ (failureText_ne_empty fault)⟩
    exact List.mem_map.mpr ⟨_, List.mem_filter.mpr ⟨List.mem_of_getElem? htext, rfl⟩, rfl⟩

/-- A warning about a text, an object asked for twice, and an array. -/
def warning : Value :=
  let parcel : Value :=
    .object [("type", .string "object"), ("className", .string "Par\ncel"),
      ("objectId", .string "parcel")]
  .object [("method", .string "Runtime.consoleAPICalled"),
    ("params", .object [("type", .string "warn"),
      ("args", .array [parcel, .object [("value", .string "late")], parcel,
        .object [("value", .array [.integer 1])]])])]

def warningCall : ConsoleCall :=
  let parcel : RemoteObject :=
    { kind := some "object", className := some "Par\ncel", objectId := some "parcel" }
  { kind := "warn",
    args := [parcel, { value := some (.string "late") }, parcel,
      { value := some (.array [.integer 1]) }] }

/-- The parcel is only found the second time it is asked for. -/
def foundLater : Answers := fun place _ =>
  if place = [2] then
    .ok [⟨"to", some { kind := some "string", value := some (.string "Ann") }⟩, ⟨"weight", none⟩]
  else .error (.timeout "Runtime.getProperties")

theorem arguments_in_place_warning :
    Unsolicited.ofFrame warning = .ok (.consoleCall warningCall) ∧ warningCall.args ≠ [] ∧
    ∃ header blocks,
      answeredLines foundLater 1 warning = header :: blocks.map (fun line => "    " ++ line) ∧
      header = "[console.warn] [Object: timeout] late" ∧
      Text.joined "\n" blocks = "[Par\ncel]\n\x7b\n  \"to\": \"Ann\"\n\x7d\n[\n  1\n]" := by
  have hframe : Unsolicited.ofFrame warning = .ok (.consoleCall warningCall) := rfl
  have hargs : warningCall.args ≠ [] := by simp [warningCall]
  obtain ⟨header, blocks, hlines, hheader, -, hblocks, -⟩ :=
    arguments_in_place foundLater 1 hframe hargs
  exact ⟨hframe, hargs, header, blocks, hlines, hheader.trans (by decide +kernel),
    hblocks.trans (by decide +kernel)⟩

end ConsoleTap.Print
