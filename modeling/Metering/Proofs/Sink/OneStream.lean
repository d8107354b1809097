import Metering.Proofs.Sink.Stage

/-! # One stream for all sinks

A run is replayed with one of its sinks exchanged for another that has kept nothing yet. All answers
are the same and so is every meter, and what the sink was told is the same stream: a recording sink
keeps it, a plain sink keeps its points, a silent one nothing, and a journaling sink reports it at
its level, entry for entry (`Metering.oneStream_of_replay`).
-/

namespace Metering

/-- To collect in order of registration is one of the ways to collect. -/
theorem State.runIn_inOrder (s : State) (commands : List Command) :
    s.runIn (commands.map Command.inOrder) = s.run commands := by
  have one (s : State) (command : Command) : s.executeIn command.inOrder = s.execute command := by
    cases command with
    | createSink sink | perform operation => rfl
    | collect m =>
        have all : s.ordered m List.range = s.snapshot m :=
          Place.filterMap_getElem?_range (s.snapshot m)
        rw [Command.inOrder, executeIn, all]
        rfl
  induction commands generalizing s with
  | nil => rfl
  | cons command rest ih => rw [List.map_cons, runIn_cons, one, ih, run]

/-- A run in which a sink is made after some commands and before the others. -/
def replay (before after : List OrderedCommand) (sink : Sink) : List Answer × State :=
  State.empty.runIn (before ++ .createSink sink :: after)

/-- What an entry says that tells of a delivery. -/
def Entry.Tells (entry : Entry) (level : Level) : Delivery → Prop
  | .point batch point =>
    entry.level = level ∧ entry.message = "metric recorded" ∧
      entry.data.lookup "meter" = some (.text point.descriptor.meter) ∧
      entry.data.lookup "instrument" = some (.text point.descriptor.name) ∧
      entry.data.lookup "kind" = some (.text point.descriptor.kind.name) ∧
      entry.data.lookup "labels" = some (.text point.labels.text) ∧
      entry.data.lookup "value" = some (.text point.value.text) ∧
      entry.data.lookup "batch" = batch.map .number ∧
      entry.data.length = 5 + batch.toList.length
  | .batchBegin batch =>
    entry.level = level ∧ entry.message = "metric batch begin" ∧
      entry.data = [("batch", .number batch)]
  | .batchEnd batch =>
    entry.level = level ∧ entry.message = "metric batch end" ∧
      entry.data = [("batch", .number batch)]

/-- The report of a delivery tells of it. -/
theorem Delivery.tells_report (delivery : Delivery) (level : Level) :
    (delivery.report level).Tells level delivery := by
  cases delivery with
  | point batch point =>
      cases batch with
      | none => exact ⟨rfl, rfl, rfl, rfl, rfl, rfl, rfl, rfl, rfl⟩
      | some batch => exact ⟨rfl, rfl, rfl, rfl, rfl, rfl, rfl, rfl, rfl⟩
  | batchBegin batch | batchEnd batch => exact ⟨rfl, rfl, rfl⟩

/-- **One stream for all sinks.** The tape has what the exchanged sink was told, in order, between
the entries that the journal has whatever that sink is. -/
structure OneStream (before after : List OrderedCommand) (k : SinkRef)
    (tape : List (Entry ⊕ Delivery)) : Prop where
  /-- The sink is the one that is exchanged. -/
  made : ∀ sink, (replay before after sink).1[before.length]? = some (.replied (.ok (.sink k)))
  /-- All requests are answered alike. -/
  answers : ∀ sink sink', (replay before after sink).1 = (replay before after sink').1
  /-- All meters and registries are left alike. -/
  meters : ∀ sink sink',
    (replay before after sink).2.meters = (replay before after sink').2.meters ∧
    (replay before after sink).2.registries = (replay before after sink').2.registries
  /-- The other sinks are left alike. -/
  others : ∀ sink sink' other, other ≠ k →
    (replay before after sink).2.sink? other = (replay before after sink').2.sink? other
  /-- A recording sink has kept the stream. -/
  recording : (replay before after (.recording [])).2.sink? k =
    some (.recording (tape.filterMap Sum.getRight?))
  /-- A plain sink has kept the points of the stream, whatever their batches. -/
  plain : (replay before after (.plain [])).2.sink? k =
    some (.plain ((tape.filterMap Sum.getRight?).filterMap Delivery.point?))
  /-- A silent sink and a journaling sink are as they were. -/
  kept : ∀ sink ∈ Sink.silent :: Level.all.map Sink.journaling,
    (replay before after sink).2.sink? k = some sink
  /-- Only a journaling sink shows in the journal. -/
  quiet : ∀ sink ∈ [.recording [], .plain [], .silent],
    (replay before after sink).2.journal = tape.filterMap Sum.getLeft?
  /-- A journaling sink reports the stream at its level: one report for each delivery, in its place
  among the other entries. -/
  journaling : ∀ level, (replay before after (.journaling level)).2.journal =
    tape.map (Sum.elim id (Delivery.report level))
  /-- A report says what was delivered. -/
  told : ∀ level, ∀ delivery ∈ tape.filterMap Sum.getRight?,
    (delivery.report level).Tells level delivery

/-- **One stream for all sinks**, in every run. -/
theorem oneStream_of_replay (before after : List OrderedCommand) :
    ∃ tape, OneStream before after ⟨(State.empty.runIn before).2.sinks.length⟩ tape := by
  obtain ⟨start, isStart⟩ : ∃ start, (State.empty.runIn before).2 = start := ⟨_, rfl⟩
  obtain ⟨answers, stage, place, done⟩ := Stage.uniform_runIn after (.ofState start)
  -- The stage is found before the sink is chosen: its answers and its tape are the same for all.
  have replayed (sink : Sink) : replay before after sink =
      ((State.empty.runIn before).1 ++ .replied (.ok (.sink ⟨start.sinks.length⟩)) :: answers,
        stage.fill sink) := by
    have ran : (start.createSink sink).2.runIn after = (answers, stage.fill sink) := by
      rw [← Stage.fill_ofState]
      exact done sink
    rw [replay, State.runIn_append, isStart, State.runIn_cons]
    change ((State.empty.runIn before).1 ++ .replied (.ok (.sink ⟨start.sinks.length⟩)) ::
      ((start.createSink sink).2.runIn after).1, ((start.createSink sink).2.runIn after).2) = _
    rw [ran]
  have isPlace : (⟨start.sinks.length⟩ : SinkRef) = ⟨stage.place⟩ := congrArg SinkRef.mk place.symm
  rw [isStart, isPlace]
  refine ⟨stage.tape, ?_⟩
  constructor
  case made =>
    intro sink
    have told := State.length_runIn .empty before
    rw [replayed, isPlace, List.getElem?_append_right (Nat.le_of_eq told), told, Nat.sub_self]
    rfl
  case answers =>
    intro sink sink'
    rw [replayed, replayed]
  case meters =>
    intro sink sink'
    rw [replayed, replayed]
    exact ⟨rfl, rfl⟩
  case others =>
    intro sink sink' other different
    rw [replayed, replayed]
    exact (stage.sink?_fill_ne different sink).trans (stage.sink?_fill_ne different sink').symm
  case recording =>
    rw [replayed]
    refine (stage.sink?_fill _).trans ?_
    rw [foldl_receive_recording]
    rfl
  case plain =>
    rw [replayed]
    refine (stage.sink?_fill _).trans ?_
    rw [foldl_receive_plain]
    rfl
  case kept =>
    intro sink member
    rw [replayed]
    refine (stage.sink?_fill _).trans (congrArg some (foldl_receive_eq_self ?_ _))
    rcases List.mem_cons.mp member with rfl | journals
    · exact fun _ => rfl
    · obtain ⟨level, _, rfl⟩ := List.mem_map.mp journals
      exact fun _ => rfl
  case quiet =>
    intro sink member
    rw [replayed]
    refine Eq.trans ?_ stage.journal_quiet
    simp only [List.mem_cons, List.not_mem_nil, or_false] at member
    rcases member with rfl | rfl | rfl <;> rfl
  case journaling =>
    intro level
    rw [replayed]
    exact stage.journal_reporting level
  case told => exact fun level delivery _ => delivery.tells_report level

end Metering
