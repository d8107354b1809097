import Metering.Proofs.Run.Moments

/-! # What is written to the journal

The journal only grows. A request that a meter answers adds what the meter gives out, in order: the
entries of its own, and what its sink reports of each delivery
(`Metering.State.journal_perform_of_home`).
-/

namespace Metering

/-- What the journal gains when something is given out to a sink that reports as it does. -/
def Output.entries (reports : Delivery → List Entry) : Output → List Entry
  | .passed number passage => (passage.deliveries number).flatMap reports
  | .noted entry => [entry]

namespace State

/-- What a sink reports of a delivery. -/
def reports (s : State) (k : SinkRef) (delivery : Delivery) : List Entry :=
  (s.sink? k).elim [] fun sink => sink.reports delivery

variable {s : State} {operation : Operation}

private theorem journal_deliver (s : State) (k : SinkRef) (delivery : Delivery) :
    (s.deliver k delivery).journal = s.journal ++ s.reports k delivery := by
  rw [deliver, reports]
  cases s.sink? k with
  | none => exact (List.append_nil _).symm
  | some sink => rfl

/-- Receiving something does not change what a sink reports. -/
theorem reports_deliver (s : State) (k : SinkRef) (delivery : Delivery) :
    (s.deliver k delivery).reports k = s.reports k := by
  funext other
  rw [reports, reports, sink?_deliver]
  cases s.sink? k with
  | none => rfl
  | some sink =>
      rw [Option.map_some, if_pos rfl]
      exact congrFun (reports_foldl_receive sink [delivery]) other

private theorem journal_foldl_deliver (k : SinkRef) (deliveries : List Delivery) (s : State) :
    (deliveries.foldl (fun s delivery => s.deliver k delivery) s).journal =
        s.journal ++ deliveries.flatMap (s.reports k) ∧
      (deliveries.foldl (fun s delivery => s.deliver k delivery) s).reports k = s.reports k := by
  induction deliveries generalizing s with
  | nil => exact ⟨(List.append_nil _).symm, rfl⟩
  | cons delivery deliveries ih =>
      have rest := ih (s.deliver k delivery)
      rw [journal_deliver, reports_deliver] at rest
      rw [List.foldl_cons, List.flatMap_cons, ← List.append_assoc]
      exact rest

/-- **The journal gains what is given out**, in order. -/
theorem journal_giveAll (k : SinkRef) (output : List Output) (s : State) :
    (s.giveAll k output).journal = s.journal ++ output.flatMap (Output.entries (s.reports k)) := by
  induction output generalizing s with
  | nil => exact (List.append_nil _).symm
  | cons out output ih =>
      have rest := ih (s.give k out)
      have given : (s.give k out).journal = s.journal ++ out.entries (s.reports k) ∧
          (s.give k out).reports k = s.reports k := by
        cases out with
        | passed number passage => exact journal_foldl_deliver k _ s
        | noted entry => exact ⟨rfl, rfl⟩
      rw [given.1, given.2, List.append_assoc] at rest
      rw [List.flatMap_cons]
      exact rest

/-- A request adds what the meter that answers it gives out. -/
theorem journal_perform_of_home {r : MeterRef} {m : Meter} (home : operation.home? = some r)
    (standing : s.meter? r = some m) :
    (s.perform operation).2.journal =
      s.journal ++ (m.answer r operation).output.flatMap (Output.entries (s.reports m.sink)) := by
  rw [perform_of_home home, atMeter, standing]
  exact journal_giveAll m.sink _ _

/-- A request takes nothing from the journal. -/
theorem journal_perform (s : State) (operation : Operation) :
    s.journal <+: (s.perform operation).2.journal := by
  have stays (same : (s.perform operation).2 = s) : s.journal <+: (s.perform operation).2.journal :=
    same.symm ▸ List.prefix_rfl
  cases home : operation.home? with
  | some r =>
      cases standing : s.meter? r with
      | none => exact stays (by rw [perform_of_home home, atMeter, standing])
      | some m => exact ⟨_, (journal_perform_of_home home standing).symm⟩
  | none =>
      rcases perform_of_homeless (s := s) home with
        ⟨setup, rfl⟩ | ⟨k, rfl⟩ | ⟨k, name, rfl⟩ | ⟨_, failed⟩
      · change s.journal <+: (s.createMeter setup).2.journal
        rw [createMeter]
        cases s.sink? setup.sink with
        | none => exact List.prefix_rfl
        | some sink => exact List.prefix_append _ _
      · change s.journal <+: (s.createRegistry k).2.journal
        rw [createRegistry]
        cases s.sink? k <;> exact List.prefix_rfl
      · rcases s.getMeter_cases k name with
          ⟨_, done, _⟩ | ⟨_, _, _, _, done⟩ | ⟨registry, _, _, _, _, done⟩
        · exact stays (congrArg Prod.snd done)
        · exact stays (congrArg Prod.snd done)
        · exact ⟨_, (congrArg (fun done => done.2.journal) done).symm⟩
      · exact stays (congrArg Prod.snd failed)

/-- What a command adds to the journal. -/
def written (s : State) (command : OrderedCommand) : List Entry :=
  (s.executeIn command).2.journal.drop s.journal.length

/-- **A command takes nothing from the journal.** -/
theorem journal_executeIn (s : State) (command : OrderedCommand) :
    (s.executeIn command).2.journal = s.journal ++ s.written command := by
  have grows : s.journal <+: (s.executeIn command).2.journal :=
    kept_of_command (P := fun _ _ s' => s.journal <+: s'.journal)
      (fun _ _ _ _ grown => grown)
      (fun _ _ s' operation grown => grown.trans (s'.journal_perform operation))
      (fun _ _ _ _ grown => grown.trans (List.prefix_append _ _))
      [] [] command List.prefix_rfl
  exact (List.prefix_iff_eq_append.mp grows).symm

end State

end Metering
