import Metering.Proofs.Telemetry.Spans

/-! # Plans

A plan stops at the first measurement that fails, so what is done depends on the answers. Whatever
they are, what a plan has done is something that a program could have done
(`Metering.Telemetry.Host.runPlan_eq_act`), so that its spans are told in the same way
(`Metering.Telemetry.Host.Recounts.runPlan`).
-/

namespace Metering

open Telemetry

/-- Some commands lead from a state to another. -/
def State.Leads (s s' : State) : Prop :=
  ∃ commands : List OrderedCommand, s' = (s.runIn commands).2

namespace State.Leads

variable {s s' : State}

private theorem refl (s : State) : s.Leads s :=
  ⟨[], rfl⟩

private theorem executeIn (leads : s.Leads s') (command : OrderedCommand) :
    s.Leads (s'.executeIn command).2 := by
  obtain ⟨commands, rfl⟩ := leads
  refine ⟨commands ++ [command], ?_⟩
  rw [runIn_append]
  rfl

private theorem perform (leads : s.Leads s') (operation : Operation) :
    s.Leads (s'.perform operation).2 :=
  leads.executeIn (.perform operation)

/-- A request leads to the state that it is answered with. -/
theorem after {α : Type} {done : Except Failure α × State} {answer : Except Failure α}
    {next : State} (leads : s.Leads s') (operation : Operation) (ended : done = (answer, next))
    (same : (s'.perform operation).2 = done.2) : s.Leads next := by
  have reached : (s'.perform operation).2 = next := same.trans (congrArg Prod.snd ended)
  exact reached ▸ leads.perform operation

end State.Leads

namespace Telemetry

namespace Measurement

variable {s s' : State}

private theorem leads_recordWith (m : Measurement) (leads : s.Leads s') (meter : MeterRef)
    (i : InstrumentRef) (labels : LabelSet) : s.Leads (m.recordWith s' meter i labels).2 := by
  rw [recordWith]
  split
  · split
    · next e s₁ opened => exact leads.after (.openBatch meter labels) opened rfl
    · next b s₁ opened =>
        have leads := leads.after (.openBatch meter labels) opened rfl
        split
        · next e s₂ put => exact leads.after (.put b i m.value) put rfl
        · next s₂ put => exact (leads.after (.put b i m.value) put rfl).perform (.commit b)
  · exact leads.perform (.record i m.value labels)

/-- A measurement comes to some commands. -/
theorem leads_perform (m : Measurement) (s : State) : s.Leads (m.perform s).2 := by
  have leads := (State.Leads.refl s).executeIn (.createSink (.journaling m.level))
  rw [Measurement.perform]
  split
  next k s₀ sunk =>
  cases sunk
  split
  · next e s₁ made => exact leads.after (.createMeter _) made rfl
  · next meter s₁ made =>
      have leads := leads.after (.createMeter _) made rfl
      split
      · next e s₂ built => exact leads.after (.build meter m.setup) built rfl
      · next i s₂ built =>
          have leads := leads.after (.build meter m.setup) built rfl
          split
          · exact leads
          · next labels _ => exact m.leads_recordWith leads meter i labels

end Measurement

namespace Activity

/-- One activity and then another. -/
def append : Activity → Activity → Activity
  | .done, later => later
  | .command c rest, later => .command c (rest.append later)
  | .span name level inside rest, later => .span name level inside (rest.append later)
  | .reset rest, later => .reset (rest.append later)

/-- Commands in turn. -/
def ofCommands (commands : List OrderedCommand) : Activity :=
  commands.foldr .command .done

end Activity

end Telemetry

namespace State

private theorem doing_ofCommands (s : State) (commands : List OrderedCommand) :
    s.doing (.ofCommands commands) = (s.runIn commands).2 := by
  induction commands generalizing s with
  | nil => rfl
  | cons command rest ih => exact ih _

private theorem forest_ofCommands (s : State) (commands : List OrderedCommand) :
    ∃ entries, s.forest written (.ofCommands commands) = .ofEntries entries .nil := by
  induction commands generalizing s with
  | nil => exact ⟨[], rfl⟩
  | cons command rest ih =>
      obtain ⟨entries, told⟩ := ih (s.executeIn command).2
      refine ⟨s.written command ++ entries, ?_⟩
      change Forest.ofEntries (s.written command) (State.forest written _ (.ofCommands rest)) = _
      rw [told, Forest.ofEntries, Forest.ofEntries, Forest.ofEntries, List.foldr_append]

end State

namespace Telemetry

namespace Host

/-- To carry out two activities, one after the other, is to carry out both as one. -/
theorem act_append (h : Host) (first second : Activity) :
    h.act (first.append second) = (h.act first).act second := by
  induction first generalizing h with
  | done => rfl
  | command command rest ih => exact ih _
  | span name level inside rest _ ih => exact ih _
  | reset rest ih => exact ih _

/-- Commands that are carried out together write to the innermost open span what they write one by
one. -/
theorem act_ofCommands (h : Host) (commands : List OrderedCommand) :
    h.act (.ofCommands commands) =
      ({ h with state := (h.state.runIn commands).2 } : Host).attach
        ((h.state.runIn commands).2.journal.drop h.state.journal.length) := by
  obtain ⟨entries, told⟩ := h.state.forest_ofCommands commands
  have journal := h.state.journal_doing (.ofCommands commands)
  rw [told, Forest.entries_ofEntries, Forest.entries, List.append_nil,
    State.doing_ofCommands] at journal
  rw [act_eq_meet, told, meet_ofEntries, State.doing_ofCommands, journal, List.drop_left]
  exact (h.attach_withState _ entries).symm

/-- To record a measurement is an activity. -/
theorem measure_eq_act (h : Host) (m : Measurement) :
    ∃ activity, (h.measure m).2 = h.act activity := by
  obtain ⟨commands, done⟩ := m.leads_perform h.state
  refine ⟨.ofCommands commands, ?_⟩
  rw [act_ofCommands, ← done]
  rfl

/-- To record measurements, one after the other, is an activity. -/
theorem measureAll_eq_act (measurements : List Measurement) (h : Host) :
    ∃ activity, (h.measureAll measurements).2 = h.act activity := by
  induction measurements generalizing h with
  | nil => exact ⟨.done, rfl⟩
  | cons m rest ih =>
      obtain ⟨first, did⟩ := h.measure_eq_act m
      rw [measureAll]
      cases measured : h.measure m with
      | mk answer h₁ =>
          rw [measured] at did
          cases answer with
          | error e => exact ⟨first, did⟩
          | ok _ =>
              obtain ⟨second, later⟩ := ih h₁
              refine ⟨first.append second, ?_⟩
              rw [act_append, ← did]
              exact later

/-- What is done in the span of a plan. -/
theorem exists_inside {inner : List SpanPlan}
    (plans : ∀ h : Host, ∃ activity, (h.runPlans inner).2 = h.act activity) (h : Host)
    (name : String) (level : Level) (measurements : List Measurement) :
    ∃ inside, (h.runPlan (.node name level measurements inner)).2 =
      h.act (.span name level inside .done) := by
  obtain ⟨first, did⟩ := measureAll_eq_act measurements (h.enter name level)
  rw [runPlan]
  cases measured : (h.enter name level).measureAll measurements with
  | mk answer h₁ =>
      rw [measured] at did
      cases answer with
      | error e => exact ⟨first, congrArg (Host.leave · level) did⟩
      | ok _ =>
          obtain ⟨second, later⟩ := plans h₁
          have all : (h₁.runPlans inner).2 = (h.enter name level).act (first.append second) := by
            rw [act_append, ← did, later]
          exact ⟨first.append second, congrArg (Host.leave · level) all⟩

/-- To run plans, one after the other, is an activity. -/
theorem runPlans_eq_act : ∀ (plans : List SpanPlan) (h : Host),
    ∃ activity, (h.runPlans plans).2 = h.act activity
  | [], _ => ⟨.done, rfl⟩
  | .node name level measurements inner :: rest, h => by
    obtain ⟨inside, did⟩ := exists_inside (runPlans_eq_act inner) h name level measurements
    rw [runPlans]
    cases planned : h.runPlan (.node name level measurements inner) with
    | mk answer h₁ =>
        rw [planned] at did
        cases answer with
        | error e => exact ⟨_, did⟩
        | ok _ =>
            obtain ⟨after, later⟩ := runPlans_eq_act rest h₁
            refine ⟨.span name level inside after, ?_⟩
            change (h₁.runPlans rest).2 = (h.act (.span name level inside .done)).act after
            rw [← did]
            exact later

/-- **What a plan has done** is a span, with something done in it. -/
theorem runPlan_eq_act (h : Host) (name : String) (level : Level) (measurements : List Measurement)
    (inner : List SpanPlan) : ∃ inside,
      (h.runPlan (.node name level measurements inner)).2 = h.act (.span name level inside .done) :=
  exists_inside (runPlans_eq_act inner) h name level measurements

/-- The spans of a plan are told as well. -/
theorem Recounts.runPlan {issuer : Issuer} {filter : Filter} {forest : Forest} {h : Host}
    (recounts : h.Recounts issuer filter forest) (name : String) (level : Level)
    (measurements : List Measurement) (inner : List SpanPlan) :
    ∃ inside, (h.runPlan (.node name level measurements inner)).2.Recounts issuer filter
      (forest.append (.span name level inside .nil)) := by
  obtain ⟨inside, did⟩ := h.runPlan_eq_act name level measurements inner
  rw [did]
  exact ⟨h.state.forest State.written inside, recounts.act (.span name level inside .done)⟩

end Host

end Telemetry

end Metering
