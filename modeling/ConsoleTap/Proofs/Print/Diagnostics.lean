import ConsoleTap.Proofs.Print.Answers
import ConsoleTap.Proofs.Target.Events

/-!
# Diagnostic lines

An event that cannot be read is reported by one line, and nothing is fetched for it.  The
line says what did not fit and quotes it, and it stays one line whatever it quotes.  No
other frame is reported: what is no event puts nothing on the console, however its
parameters look, and an event that can be read is printed as what it is.
-/

namespace ConsoleTap.Print

open ConsoleTap.Json ConsoleTap.Target

variable {frame : Value} {cause : Mismatch} {incoming : Unsolicited} {maxDepth : Nat}
  {source : PropertyLookup}

theorem ofFrame_of_error (h : Unsolicited.ofFrame frame = .error cause) :
    Printout.ofFrame frame = .lines ["[parse-error] " ++ cause.message] := by
  have hmark : "[parse-error]" ++ " " ++ cause.message = "[parse-error] " ++ cause.message := rfl
  rw [Printout.ofFrame, h, ← hmark]
  rfl

theorem ofFrame_of_ok (h : Unsolicited.ofFrame frame = .ok incoming) :
    Printout.ofFrame frame = .ofUnsolicited incoming := by
  rw [Printout.ofFrame, h]

/-- What is no event is recognised and puts nothing on the console. -/
theorem printout_of_no_event (h : ∀ event, ¬ IsEventOf frame event) :
    (∃ incoming, Unsolicited.ofFrame frame = .ok incoming) ∧
      Printout.ofFrame frame = .lines [] := by
  rcases ofFrame_of_no_event h with ⟨id, hframe⟩ | ⟨method, hframe⟩ <;>
    exact ⟨⟨_, hframe⟩, ofFrame_of_ok hframe⟩

theorem printed_of_lines {lines : List String} (h : Printout.ofFrame frame = .lines lines)
    (source : PropertyLookup) (maxDepth : Nat) :
    Printed.ofFrame source maxDepth frame = ⟨lines, [], frameNotices frame⟩ := by
  rw [Printed.ofFrame, h]

theorem answered_of_lines {answers : Answers} {lines : List String}
    (h : Printout.ofFrame frame = .lines lines) : answeredLines answers maxDepth frame = lines := by
  rw [answeredLines, h]

/-- A frame that was recognised is not reported. -/
theorem not_reported_of_ok (h : Unsolicited.ofFrame frame = .ok incoming) :
    Notice.unreadableEvent cause ∉ (Printed.ofFrame source maxDepth frame).notices := by
  have hframe : Notice.unreadableEvent cause ∉ frameNotices frame := by
    rw [frameNotices, h]
    cases incoming <;> simp
  have hfetch : ∀ fetched, Notice.unreadableEvent cause ∉ fetchNotices source fetched := by
    intro fetched hmem
    obtain ⟨objectId, -, hnotice⟩ := List.mem_filterMap.mp hmem
    split at hnotice
    · cases hnotice
    · rw [Option.some_inj, Notice.ofFailedFetch] at hnotice
      split at hnotice <;> cases hnotice
  rw [Printed.ofFrame]
  split
  · exact hframe
  · rw [List.mem_append, not_or]
    exact ⟨hframe, hfetch _⟩

/-- A frame is reported exactly if it is an event with parameters that are neither missing nor
    `null` and do not fit the event's record, at whatever depth.  Then nothing is fetched for it,
    and it is printed as one line, which begins with the diagnostic mark and contains no line break.
    In every other case the frame is printed as what it was recognised as; if it is no event, that
    is nothing. -/
theorem unreadable_event_costs_one_line (answers : Answers) (source : PropertyLookup)
    (maxDepth : Nat) (frame : Value) :
    ((∃ cause, Unsolicited.ofFrame frame = .error cause) ↔ UnreadableEvent frame) ∧
    (UnreadableEvent frame →
      ∃ text cause, Printout.ofFrame frame = .lines ["[parse-error] " ++ text] ∧
        (∀ c ∈ ("[parse-error] " ++ text).toList, c ≠ '\n' ∧ c ≠ '\r') ∧
        answeredLines answers maxDepth frame = ["[parse-error] " ++ text] ∧
        Printed.ofFrame source maxDepth frame =
          ⟨["[parse-error] " ++ text], [], [.unreadableEvent cause]⟩) ∧
    (¬ UnreadableEvent frame →
      ∃ incoming, Unsolicited.ofFrame frame = .ok incoming ∧
        Printout.ofFrame frame = .ofUnsolicited incoming ∧
        ∀ cause, Notice.unreadableEvent cause ∉ (Printed.ofFrame source maxDepth frame).notices) ∧
    ((∀ event, ¬ IsEventOf frame event) →
      answeredLines answers maxDepth frame = [] ∧
        (Printed.ofFrame source maxDepth frame).lines = [] ∧
        (Printed.ofFrame source maxDepth frame).fetched = [] ∧
        ∀ cause,
          Notice.unreadableEvent cause ∉ (Printed.ofFrame source maxDepth frame).notices) := by
  refine ⟨exists_error_iff, fun hunreadable => ?_, fun hreadable => ?_, fun hother => ?_⟩
  · obtain ⟨cause, hcause⟩ := exists_error_iff.mpr hunreadable
    have hlines := ofFrame_of_error hcause
    have honeLine : Text.OneLine ("[parse-error] " ++ cause.message).toList := by
      simp [oneLine_of_ofFrame_error hcause]
    have hnotices : frameNotices frame = [.unreadableEvent cause] := by rw [frameNotices, hcause]
    exact ⟨cause.message, cause, hlines, honeLine, answered_of_lines hlines,
      hnotices ▸ printed_of_lines hlines source maxDepth⟩
  · cases hframe : Unsolicited.ofFrame frame with
    | error cause => exact absurd (exists_error_iff.mp ⟨cause, hframe⟩) hreadable
    | ok incoming => exact ⟨incoming, rfl, ofFrame_of_ok hframe, fun _ => not_reported_of_ok hframe⟩
  · obtain ⟨⟨incoming, hframe⟩, hprintout⟩ := printout_of_no_event hother
    have hprinted := printed_of_lines hprintout source maxDepth
    exact ⟨answered_of_lines hprintout, by rw [hprinted], by rw [hprinted],
      fun _ => not_reported_of_ok hframe⟩

/-- An exception whose object has a preview with a text of two lines where the preview of a
    property's value should stand. -/
def brokenPreview : Value :=
  let property : Value :=
    .object [("name", .string "cause"), ("valuePreview", .string "two\r\nlines")]
  let thrown : Value :=
    .object [("type", .string "object"),
      ("preview", .object [("properties", .array [property])])]
  .object [("method", .string "Runtime.exceptionThrown"),
    ("params", .array [.object [("exception", thrown)]])]

/-- No known event, with parameters that would fit none. -/
def strayEvent : Value :=
  .object [("method", .string "Runtime.consoleApiCalled"), ("params", .string "two\nlines")]

theorem unreadable_event_costs_one_line_nested :
    (UnreadableEvent brokenPreview ∧
      ∃ text, (∀ c ∈ ("[parse-error] " ++ text).toList, c ≠ '\n' ∧ c ≠ '\r') ∧
        answeredLines (fun _ _ => .ok []) 2 brokenPreview = ["[parse-error] " ++ text]) ∧
    ¬ UnreadableEvent strayEvent ∧ (∀ event, ¬ IsEventOf strayEvent event) ∧
      (∃ incoming, Unsolicited.ofFrame strayEvent = .ok incoming) ∧
      answeredLines (fun _ _ => .ok []) 2 strayEvent = [] := by
  have hbroken :=
    unreadable_event_costs_one_line (fun _ _ => .ok []) (fun _ => .ok []) 2 brokenPreview
  have hstray := unreadable_event_costs_one_line (fun _ _ => .ok []) (fun _ => .ok []) 2 strayEvent
  have hunreadable : UnreadableEvent brokenPreview := hbroken.1.mp ⟨_, rfl⟩
  have hother : ∀ event, ¬ IsEventOf strayEvent event := by
    intro event
    cases event <;> decide
  have hreadable : ¬ UnreadableEvent strayEvent := fun ⟨event, _, hevent, _⟩ => hother event hevent
  obtain ⟨text, -, -, honeLine, hlines, -⟩ := hbroken.2.1 hunreadable
  obtain ⟨incoming, hincoming, -⟩ := hstray.2.2.1 hreadable
  exact ⟨⟨hunreadable, text, honeLine, hlines⟩, hreadable, hother, ⟨incoming, hincoming⟩,
    (hstray.2.2.2 hother).1⟩

end ConsoleTap.Print
