import Metering.Proofs.Meter.Requests
import Metering.Proofs.Place
import Metering.Proofs.State.Routing
import Metering.State.Order

/-! # Callbacks that only report

A callback reports through its result alone when all it does is to observe values of its own
instrument and to show that result. Where no other callback is ever set, none is ever there to run
(`Metering.Meter.Quiet.answer`).
-/

namespace Metering

/-- Whether an action of a callback goes through the result that it reports to. -/
def Action.reports : Action → Bool
  | .observe .. | .describe => true
  | .perform _ | .spawn .. | .replace _ => false

/-- Whether a request sets no callback but one that only reports. -/
def Operation.reports : Operation → Bool
  | .setCallback _ program => program.all Action.reports
  | _ => true

/-- Whether a command sets no callback but one that only reports. -/
def OrderedCommand.reports : OrderedCommand → Bool
  | .perform operation => operation.reports
  | _ => true

namespace Meter

/-- A meter whose callbacks only report. -/
def Quiet (m : Meter) : Prop :=
  ∀ i ∈ m.instruments, ∀ program, i.callback = some program → program.all Action.reports = true

variable {m : Meter}

/-- A meter without instruments has no callbacks. -/
theorem quiet_ofSetup (setup : MeterSetup) : (Meter.ofSetup setup).Quiet :=
  fun _ member => (List.not_mem_nil member).elim

private theorem Quiet.modify (quiet : m.Quiet) (place : Nat) {f : Instrument → Instrument}
    (kept : ∀ i program, (f i).callback = some program → i.callback = some program ∨
      program.all Action.reports = true) : (m.modifyInstrument place f).Quiet := by
  intro i member program set
  obtain ⟨other, found⟩ := List.mem_iff_getElem?.mp member
  obtain ⟨j, standing, rfl⟩ := Place.getElem?_modify_eq_some.mp found
  split at set
  · rcases kept j program set with before | reports
    · exact quiet j (List.mem_of_getElem? standing) program before
    · exact reports
  · exact quiet j (List.mem_of_getElem? standing) program set

private theorem Quiet.build (quiet : m.Quiet) (setup : InstrumentSetup) :
    (m.build setup).meter.Quiet := by
  rcases m.build_cases setup with ⟨_, _, outcome⟩ | ⟨_, outcome⟩
  · rw [outcome]
    exact quiet
  · rw [outcome]
    rcases m.register_cases setup.config with
      ⟨_, _, _, _, _, outcome⟩ | ⟨_, _, _, _, outcome⟩ | ⟨_, outcome⟩
    · rw [outcome]
      exact quiet
    · rw [outcome]
      exact quiet
    · rw [outcome]
      intro i member program set
      rcases List.mem_append.mp member with before | new
      · exact quiet i before program set
      · rw [List.mem_singleton.mp new] at set
        cases set

/-- **No request brings in a callback but those it sets.** -/
theorem Quiet.answer (quiet : m.Quiet) (r : MeterRef) {operation : Operation}
    (reports : operation.reports = true) : (m.answer r operation).meter.Quiet := by
  cases operation with
  | createMeter | createRegistry | getMeter => exact quiet
  | build r' setup => exact quiet.build setup
  | openBatch r' labels => exact quiet
  | record i value labels =>
      change (m.record i.index value labels).meter.Quiet
      rcases m.record_cases i.index value labels with ⟨_, outcome, _⟩ | ⟨_, _, _, outcome⟩
      all_goals
        rw [outcome]
        exact quiet
  | recordBound h value =>
      change (m.recordBound h.instrument.index h.identity value).meter.Quiet
      rcases m.recordBound_cases h.instrument.index h.identity value with
        ⟨_, outcome, _⟩ | ⟨_, _, _, _, _, _, outcome⟩
      all_goals
        rw [outcome]
        exact quiet
  | commit b =>
      change (m.commit b.index).meter.Quiet
      rcases m.commit_cases b.index with ⟨_, outcome, _⟩ | ⟨_, _, _, outcome⟩
      all_goals
        rw [outcome]
        exact quiet
  | bind i labels =>
      change (m.bind i.index labels).meter.Quiet
      rcases m.bind_cases i.index labels with outcome | ⟨_, _, outcome⟩
      · rw [outcome]
        exact quiet
      · rw [outcome]
        exact quiet.modify _ fun _ _ => Or.inl
  | setCallback i program =>
      -- This is the one request that brings in a program, and it is the program that it was given.
      change (m.setCallback i.index program).meter.Quiet
      rcases m.setCallback_cases i.index program with ⟨_, outcome, _⟩ | ⟨_, _, _, outcome⟩
      · rw [outcome]
        exact quiet
      · rw [outcome]
        refine quiet.modify _ fun _ other set => Or.inr ?_
        cases set
        exact reports
  | put b i value =>
      simp only [Meter.answer]
      split
      · exact quiet
      · change (m.put b.index (.own i.index) value).meter.Quiet
        rcases m.put_cases b.index (.own i.index) value with
          ⟨_, outcome, _⟩ | ⟨_, _, _, _, _, _, _, _, outcome⟩
        all_goals
          rw [outcome]
          exact quiet
  | unbind i h =>
      simp only [Meter.answer]
      split
      · split
        · change (m.unbind i.index h.identity).meter.Quiet
          rcases m.unbind_cases i.index h.identity with
            ⟨_, outcome, _⟩ | ⟨_, _, _, _, _, _, _, outcome⟩
          · rw [outcome]
            exact quiet
          · rw [outcome]
            exact quiet.modify _ fun _ _ => Or.inl
        · exact quiet
      · exact quiet

end Meter

end Metering
