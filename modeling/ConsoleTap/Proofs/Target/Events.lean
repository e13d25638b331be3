import ConsoleTap.Proofs.Json.Messages
import ConsoleTap.Proofs.Target.Forms

/-!
# Events

A frame is one of three known events, by its method, or it is none.  The parameters of an
event are a record of a kind of its own; none at all and `null` count as an empty one.  So an
event is unreadable exactly if it has other parameters and these do not fit the record:
that is `UnreadableEvent`, and `exists_error_iff` says that it is the one way in which
recognising a frame can fail.
-/

namespace ConsoleTap.Target

open ConsoleTap.Json

/-- The events that are made lines of. -/
inductive EventKind where
  | consoleCall
  | exceptionThrown
  | logEntryAdded
deriving DecidableEq, Repr

def EventKind.method : EventKind → String
  | .consoleCall => "Runtime.consoleAPICalled"
  | .exceptionThrown => "Runtime.exceptionThrown"
  | .logEntryAdded => "Log.entryAdded"

/-- The record that the parameters of an event are. -/
def EventKind.record : EventKind → RecordKind
  | .consoleCall => .consoleCall
  | .exceptionThrown => .exceptionThrown
  | .logEntryAdded => .logEntryAdded

def EventKind.recognised : (event : EventKind) → event.record.Content → Unsolicited
  | .consoleCall => .consoleCall
  | .exceptionThrown => .exception
  | .logEntryAdded => .logEntry

/-- The frame is that event, well-formed or not. -/
def IsEventOf (frame : Value) (event : EventKind) : Prop :=
  frame.get? "method" = some (.string event.method)

instance (frame : Value) (event : EventKind) : Decidable (IsEventOf frame event) :=
  inferInstanceAs (Decidable (frame.get? "method" = some (.string event.method)))

/-- The frame is an event with parameters that do not fit its record. -/
def UnreadableEvent (frame : Value) : Prop :=
  ∃ event params, IsEventOf frame event ∧ frame.get? "params" = some params ∧ params ≠ .null ∧
    ¬ Fits (.record event.record) params

variable {frame params : Value} {ms : Members} {event : EventKind} {cause : Mismatch}

/-! ### Recognising a frame -/

theorem ofFrame_of_event (h : IsEventOf (.object ms) event) :
    Unsolicited.ofFrame (.object ms) =
      (event.record.read (eventParams ms)).map event.recognised := by
  have hmethod : Members.get? ms "method" = some (.string event.method) := h
  rw [Unsolicited.ofFrame, hmethod]
  cases event <;> rfl

theorem exists_members_of_event (h : IsEventOf frame event) : ∃ ms, frame = .object ms := by
  cases frame with
  | object ms => exact ⟨ms, rfl⟩
  | _ => cases h

theorem ne_of_no_event {method : String} (h : ∀ event, ¬ IsEventOf (.object ms) event)
    (hmethod : Members.get? ms "method" = some (.string method)) :
    method ≠ consoleApiCalled ∧ method ≠ exceptionThrown ∧ method ≠ logEntryAdded := by
  have hne : ∀ event : EventKind, method ≠ event.method := by
    rintro event rfl
    exact h event hmethod
  exact ⟨hne .consoleCall, hne .exceptionThrown, hne .logEntryAdded⟩

/-- What is no event is a reply that nobody waits for, or unknown. -/
theorem ofFrame_of_no_event (h : ∀ event, ¬ IsEventOf frame event) :
    (∃ id, Unsolicited.ofFrame frame = .ok (.orphanReply id)) ∨
      ∃ method, Unsolicited.ofFrame frame = .ok (.unknown method) := by
  unfold Unsolicited.ofFrame
  split
  · split
    · rename_i method hmethod
      obtain ⟨hcall, hthrown, hadded⟩ := ne_of_no_event h hmethod
      rw [if_neg hcall, if_neg hthrown, if_neg hadded]
      exact Or.inr ⟨method, rfl⟩
    · split
      · exact Or.inl ⟨_, rfl⟩
      · exact Or.inr ⟨"", rfl⟩
  · exact Or.inr ⟨"", rfl⟩

/-! ### Unreadable events -/

theorem fits_empty (kind : RecordKind) : Fits (.record kind) (.object []) :=
  .members fun _ _ _ _ hmem => nomatch hmem

theorem eventParams_of_some (h : Members.get? ms "params" = some params) (hnull : params ≠ .null) :
    eventParams ms = params := by
  rw [eventParams, h]
  cases params with
  | null => exact absurd rfl hnull
  | _ => rfl

theorem eventParams_cases (ms : Members) :
    eventParams ms = .object [] ∨
      Members.get? ms "params" = some (eventParams ms) ∧ eventParams ms ≠ .null := by
  cases h : Members.get? ms "params" with
  | none =>
      left
      rw [eventParams, h]
  | some params =>
      by_cases hnull : params = .null
      · left
        rw [eventParams, h, hnull]
      · rw [eventParams_of_some h hnull]
        exact Or.inr ⟨rfl, hnull⟩

/-- Recognising a frame fails exactly if it is an event with parameters that do not fit. -/
theorem exists_error_iff :
    (∃ cause, Unsolicited.ofFrame frame = .error cause) ↔ UnreadableEvent frame := by
  constructor
  · rintro ⟨cause, hcause⟩
    by_cases hevent : ∃ event, IsEventOf frame event
    · obtain ⟨event, hevent⟩ := hevent
      obtain ⟨ms, rfl⟩ := exists_members_of_event hevent
      rw [ofFrame_of_event hevent, map_eq_error_iff] at hcause
      have hmisfit : ¬ Fits (.record event.record) (eventParams ms) := by
        intro hfits
        obtain ⟨x, hx⟩ := read_of_fits hfits
        cases hcause.symm.trans hx
      rcases eventParams_cases ms with hempty | ⟨hparams, hnull⟩
      · exact absurd (hempty ▸ fits_empty _) hmisfit
      · exact ⟨event, _, hevent, hparams, hnull, hmisfit⟩
    · rw [not_exists] at hevent
      rcases ofFrame_of_no_event hevent with ⟨id, hok⟩ | ⟨method, hok⟩ <;>
        cases hcause.symm.trans hok
  · rintro ⟨event, params, hevent, hparams, hnull, hmisfit⟩
    obtain ⟨ms, rfl⟩ := exists_members_of_event hevent
    rw [ofFrame_of_event hevent, eventParams_of_some hparams hnull]
    cases hread : event.record.read params with
    | error cause => exact ⟨cause, rfl⟩
    | ok x => exact absurd (fits_of_read (.record event.record) params ⟨x, hread⟩) hmisfit

/-! ### Why an event is unreadable -/

theorem oneLine_name (kind : RecordKind) : Text.OneLine kind.schema.name.toList := by
  cases kind <;> simp [RecordKind.schema, RemoteObject.schema, ObjectPreview.schema,
    PropertyPreview.schema, ExceptionDetails.schema, ExceptionThrown.schema, ConsoleCall.schema,
    LogEntry.schema, LogEntryAdded.schema]

/-- The message about any misfit, at whatever depth, is one line. -/
theorem oneLine_of_read_error (form : Form) (v : Value) (h : form.read v = .error cause) :
    Text.OneLine cause.message.toList := by
  induction form, v using Form.read_induction with
  | h form v ihParts ihPart =>
      cases form with
      | text =>
          cases v with
          | string s => cases h
          | _ =>
              obtain rfl := Except.error.inj h
              exact Mismatch.oneLine_shape (by decide +kernel) _
      | flag =>
          cases v with
          | bool b => cases h
          | _ =>
              obtain rfl := Except.error.inj h
              exact Mismatch.oneLine_shape (by decide +kernel) _
      | whole =>
          cases v with
          | integer n =>
              rw [Form.read, readInteger] at h
              split at h
              · cases h
              · obtain rfl := Except.error.inj h
                exact Mismatch.oneLine_range (by decide +kernel) _
          | _ =>
              obtain rfl := Except.error.inj h
              exact Mismatch.oneLine_shape (by decide +kernel) _
      | anything => cases h
      | optional part =>
          by_cases hnull : v = .null
          · rw [hnull] at h
            cases h
          · rw [Form.read, readOption_of_ne_null hnull, map_eq_error_iff] at h
            exact ihPart part rfl h
      | list item =>
          cases v with
          | array items =>
              obtain ⟨w, hw, hread⟩ := exists_of_mapM_eq_error h
              exact ihParts item w (depth_lt_of_mem_items hw) hread
          | _ =>
              obtain rfl := Except.error.inj h
              exact Mismatch.oneLine_shape (by decide +kernel) _
      | record kind =>
          rw [Form.read, kind.read_eq] at h
          cases Schema.refusal_of_read h with
          | part hf hdepth hstore =>
              obtain ⟨form, -, hhas⟩ := RecordKind.exists_form hf
              exact ihParts form _ hdepth (hhas.read_error hstore)
          | shape =>
              refine Mismatch.oneLine_shape ?_ _
              have hname := oneLine_name kind
              simp [Shape.message, hname]
          | short position fields => exact Mismatch.oneLine_tooShort (oneLine_name kind) _ _
          | long length => exact Mismatch.oneLine_tooLong _

theorem oneLine_of_ofFrame_error (h : Unsolicited.ofFrame frame = .error cause) :
    Text.OneLine cause.message.toList := by
  obtain ⟨event, _, hevent, -⟩ := exists_error_iff.mp ⟨cause, h⟩
  obtain ⟨ms, rfl⟩ := exists_members_of_event hevent
  rw [ofFrame_of_event hevent, map_eq_error_iff] at h
  exact oneLine_of_read_error (.record event.record) _ h

end ConsoleTap.Target
