import ConsoleTap.Proofs.Print.Diagnostics
import ConsoleTap.Proofs.Target.Rearrangement
import ConsoleTap.Session.Draft

/-!
# Rearranged frames

Two frames that differ in the order of the members of their records, or in members that
nobody here knows, are the same to whoever reads the console.  Either both are reported as
unreadable, or both are printed alike, with the same properties fetched for them; the texts
of two reports may differ, because each names the first misfit in the order of its own frame.
-/

namespace ConsoleTap.Session

open ConsoleTap.Json ConsoleTap.Target ConsoleTap.Print

variable {frame frame' : Value}

/-- Neither of two rearranged frames is recognised, or both are, as the same.  Then they are printed
    alike: the same lines for the same answers, the same fetches, and the same job. -/
theorem rearranged_frames_print_alike (h : RearrangedFrame frame frame') :
    ((∃ cause, Unsolicited.ofFrame frame = .error cause) ∧
      ∃ cause, Unsolicited.ofFrame frame' = .error cause) ∨
    ∃ incoming, Unsolicited.ofFrame frame = .ok incoming ∧
      Unsolicited.ofFrame frame' = .ok incoming ∧
      (∀ answers maxDepth,
        answeredLines answers maxDepth frame = answeredLines answers maxDepth frame') ∧
      (∀ source maxDepth,
        Printed.ofFrame source maxDepth frame = Printed.ofFrame source maxDepth frame') ∧
      ∀ hops next, Job.ofFrame hops next frame = Job.ofFrame hops next frame' := by
  have hread := h.toOption_ofFrame
  cases hframe : Unsolicited.ofFrame frame with
  | error cause =>
      cases hframe' : Unsolicited.ofFrame frame' with
      | error cause' => exact Or.inl ⟨⟨cause, rfl⟩, cause', rfl⟩
      | ok incoming => rw [hframe, hframe'] at hread; cases hread
  | ok incoming =>
      have hframe' : Unsolicited.ofFrame frame' = .ok incoming :=
        toOption_eq_some_iff.mp (hread.symm.trans (toOption_eq_some_iff.mpr hframe))
      have hprintout : Printout.ofFrame frame = Printout.ofFrame frame' :=
        (ofFrame_of_ok hframe).trans (ofFrame_of_ok hframe').symm
      have hnotices : frameNotices frame = frameNotices frame' := by
        rw [frameNotices, frameNotices, hframe, hframe']
      refine Or.inr ⟨incoming, rfl, hframe', fun answers maxDepth => ?_, fun source maxDepth => ?_,
        fun hops next => ?_⟩
      · rw [answeredLines, answeredLines, hprintout]
      · rw [Printed.ofFrame, Printed.ofFrame, hprintout, hnotices]
      · rw [Job.ofFrame, Job.ofFrame, hprintout]

/-- A preview with one property. -/
def plainPreview : Value :=
  .object [("overflow", .bool true),
    ("properties", .array [.object [("name", .string "a"), ("value", .string "1")]])]

/-- The same preview in another order, inside and outside, with a member that is not known. -/
def shuffledPreview : Value :=
  .object [("properties",
      .array [.object [("value", .string "1"), ("name", .string "a"), ("symbol", .null)]]),
    ("overflow", .bool true)]

/-- A console call with one object, and the object's preview and handle. -/
def plainCall : Value :=
  .object [("method", .string "Runtime.consoleAPICalled"),
    ("params", .object [("type", .string "log"),
      ("args", .array [.object [("preview", plainPreview), ("objectId", .string "7")]])])]

/-- The same call in another order, with the session's name. -/
def shuffledCall : Value :=
  .object [("params", .object [("args", .array [.object [("objectId", .string "7"),
        ("preview", shuffledPreview)]]), ("type", .string "log")]),
    ("method", .string "Runtime.consoleAPICalled"), ("sessionId", .string "S")]

theorem rearranged_previews : Rearranged (.record .objectPreview) plainPreview shuffledPreview := by
  have hproperty : Rearranged (.record .propertyPreview)
      (.object [("name", .string "a"), ("value", .string "1")])
      (.object [("value", .string "1"), ("name", .string "a"), ("symbol", .null)]) :=
    (Rearranged.add _ "symbol" (by decide) .null).trans
      (.permute (by decide) (.swap _ _ _))
  have hproperties := Rearranged.member .objectPreview [("overflow", .bool true)] "properties" []
    (by decide) (.element [] [] hproperty)
  exact hproperties.trans (.permute (by decide) (.swap _ _ _))

theorem rearranged_calls : RearrangedFrame plainCall shuffledCall := by
  have hobject := (Rearranged.member .remoteObject [] "preview" [("objectId", .string "7")]
    (by decide) (.optional rearranged_previews)).trans (.permute (by decide) (.swap _ _ _))
  have hparams := (Rearranged.member .consoleCall [("type", .string "log")] "args" []
    (by decide) (.element [] [] hobject)).trans (.permute (by decide) (.swap _ _ _))
  have hframe := RearrangedFrame.params .consoleCall
    [("method", .string "Runtime.consoleAPICalled")] [] rfl hparams
  exact (hframe.trans (.permute (by decide) (.swap _ _ _))).trans
    (.add _ "sessionId" (by decide) (.string "S"))

theorem rearranged_frames_print_alike_nested :
    RearrangedFrame plainCall shuffledCall ∧ plainCall ≠ shuffledCall ∧
      ∃ call, Unsolicited.ofFrame plainCall = .ok (.consoleCall call) ∧
        Unsolicited.ofFrame shuffledCall = .ok (.consoleCall call) ∧
        ∀ answers maxDepth,
          answeredLines answers maxDepth plainCall =
            answeredLines answers maxDepth shuffledCall := by
  refine ⟨rearranged_calls, by decide, ?_⟩
  rcases rearranged_frames_print_alike rearranged_calls with
    ⟨⟨cause, hcause⟩, -⟩ | ⟨incoming, hplain, hshuffled, hlines, -⟩
  · cases hcause
  · cases hplain
    exact ⟨_, rfl, hshuffled, hlines⟩

end ConsoleTap.Session
