import ConsoleTap.Proofs.Session.Arrivals
import Mathlib

/-!
# The order of the output

What a session hands over are the groups of lines of the frames that were passed on, in
the order in which they were received.  A session whose runner has finished has handed
over the groups of all of them, and a frame that was received before the shutdown was
sent is among them unless it resolved a request.
-/

namespace ConsoleTap.Session

open ConsoleTap.Json

variable {options : Options} {s : State} {as : List Action}

/-- The output of a session consists of the groups of the frames passed on, in the order in which
    they were received: at every moment of the first ones and a beginning of the next, and when
    the runner has finished of all of them, and then a frame that was received before the shutdown
    was sent has its group in its place, unless it resolved a request. -/
theorem output_in_order {sink : Exchange.Sink} {s₀ : State}
    (hstart : State.start options sink = .ok s₀) (hrun : run? s₀ as = some s) :
    List.Sublist s.core.forwarded (routedFrames options as) ∧
    (∃ (groups : List (List String)) (part : List String),
      s.emissions.map Emission.line = groups.flatten ++ part ∧
      groups.length ≤ s.core.forwarded.length ∧
      (∀ i lines, groups[i]? = some lines → Group options as s i lines) ∧
      (part = [] ∨ ∃ next, Group options as s groups.length next ∧ part <+: next)) ∧
    ∀ how, s.runner = .done how →
      ∃ groups : List (List String), s.emissions.map Emission.line = groups.flatten ∧
        groups.length = s.core.forwarded.length ∧
        (∀ i lines, groups[i]? = some lines → Group options as s i lines) ∧
        ∀ before after u, as = before ++ after → run? s₀ before = some u → ¬ u.ShutdownSent →
          ∀ k frame, (routedFrames options before)[k]? = some frame →
            (∃ n, Exchange.ResolvedBy (coreRun options as) k n) ∨
            ∃ i lines, Exchange.PassedOn (coreRun options as) k i ∧
              s.core.forwarded[i]? = some frame ∧ groups[i]? = some lines := by
  obtain rfl := start_eq_opened hstart
  obtain ⟨groups, h⟩ := dispatched_of_run hrun
  have hevents := forwarded_eq_events hrun
  refine ⟨?_, h.output, fun how hdone => ?_⟩
  · rw [hevents]
    exact (Exchange.events_sublist_taken _).trans (taken_prefix_routedFrames hrun).sublist
  · obtain ⟨hemissions, hlength⟩ := h.output_done hrun hdone
    refine ⟨groups, hemissions, hlength, fun _ _ hgroup => h.group hgroup, ?_⟩
    intro before after u has hbefore hsent k frame hk
    have hafter : run? u after = some s := by
      have hwhole := hrun
      rw [has, run?_eq_follow, Run.follow_append, ← run?_eq_follow, hbefore, Option.bind_some,
        ← run?_eq_follow] at hwhole
      exact hwhole
    have hstopped := ((ceased_of_run hrun).done how hdone).1
    have htaken := taken_of_received_before hbefore hsent hafter hstopped
    rw [← has] at htaken
    obtain ⟨core, hcore, -⟩ := core_of_run hrun
    obtain ⟨rest, hrest⟩ := htaken
    have hframe : (Exchange.taken (coreRun options as))[k]? = some frame := by
      rw [← hrest, List.getElem?_append_left (List.getElem?_eq_some_iff.mp hk).1, hk]
    rcases Exchange.fate_of_taken hcore hframe with hresolved | ⟨i, hpassed, hi⟩
    · exact Or.inl hresolved
    · rw [← hevents] at hi
      have hlt : i < groups.length := hlength ▸ (List.getElem?_eq_some_iff.mp hi).1
      exact Or.inr ⟨i, groups[i], hpassed, hi, List.getElem?_eq_getElem hlt⟩

/-- A console call and a log entry arrive, the fetch for the call is not answered in time, and then
    the session is closed. -/
def overdueRun : List Action :=
  [.arrive (.frame (callFrame "7").compact), .receive, .core .handle, .take,
    .arrive (.frame (entryFrame "hi").compact), .receive, .core .handle, .take,
    .core (.caller 3 none), .core (.caller 3 none), .core (.caller 3 none), .core (.caller 3 none),
    .core .handle, .tick 2000, .core .expire, .core (.caller 3 none),
    .grow 3, .collect, .emit, .collect, .emit, .close, .handle 0 none, .handle 0 none,
    .core (.closer 0), .core (.closer 0), .core (.closer 0), .handle 0 none, .ceaseReceiving,
    .observe .closeRequested, .core (.closer 1), .join, .core .handle, .core .shut, .core .stop,
    .expectNone, .ceaseDispatching, .finish]

theorem output_in_order_overdue :
    State.start {} {} = .ok (opened {}) ∧
      ∃ s, run? (opened {}) overdueRun = some s ∧
        ∃ groups : List (List String), groups.length = 2 ∧
          (∀ i lines, groups[i]? = some lines → Group {} overdueRun s i lines) ∧
          groups.flatten = ["[console.log] [Object: timeout]", "[info] hi"] := by
  have hend : (run? (opened {}) overdueRun).map
      (fun s => (s.runner, s.core.forwarded.length, s.emissions.map Emission.line)) =
        some (.done .closeRequested, 2, ["[console.log] [Object: timeout]", "[info] hi"]) := by cbv
  obtain ⟨s, hrun, hs⟩ := Option.map_eq_some_iff.mp hend
  simp only [Prod.mk.injEq] at hs
  obtain ⟨hrunner, hlength, hlines⟩ := hs
  obtain ⟨groups, hemissions, hgroups, hgroup, -⟩ :=
    (output_in_order start_default hrun).2.2 _ hrunner
  exact ⟨start_default, s, hrun, groups, hgroups.trans hlength, hgroup,
    hemissions.symm.trans hlines⟩

end ConsoleTap.Session
