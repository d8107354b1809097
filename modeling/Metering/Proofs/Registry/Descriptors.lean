import Metering.Proofs.Run.Moments
import Metering.Proofs.Stream.Attribution

/-! # Descriptors tell instruments apart

An instrument is registered by one request of a run and has from then on the descriptor that it was
registered with. Where the meters of one registry, and no others, report to its sink, two
instruments of theirs are the same exactly when their descriptors have the same meter and number,
and exactly when they have the same meter and name; and each point that the sink is told carries the
descriptor of the instrument that was measured (`Metering.identified_runIn`).
-/

namespace Metering

namespace Meter

/-- A request measures the instrument at a place as a value: it records the value, or it commits a
batch that has the value for the instrument. -/
def Measures (m : Meter) (place : Nat) (value : Value) : Operation → Prop
  | .record i recorded _ => i.index = place ∧ recorded = value
  | .recordBound h recorded => h.instrument.index = place ∧ recorded = value
  | .commit b => ∃ batch, m.batches[b.index]? = some batch ∧ (place, value) ∈ batch.entries
  | _ => False

variable {m : Meter} {r : MeterRef} {operation : Operation} {outcome : Outcome Reply} {place : Nat}
  {i : Instrument}

/-- **A new instrument is built by the request**, and described as was wished. -/
theorem Does.new (does : m.Does r operation outcome) (missing : m.instruments[place]? = none)
    (found : outcome.meter.instruments[place]? = some i) :
    ∃ setup, operation = .build r setup ∧ outcome.answer = .ok (.instrument ⟨r, place⟩) ∧
      i.descriptor = setup.config.descriptor m.name m.nextInstrument := by
  have changed {other : Nat} {f : Instrument → Instrument}
      (found : (m.modifyInstrument other f).instruments[place]? = some i) : False := by
    obtain ⟨_, before, _⟩ := Place.getElem?_modify_eq_some.mp found
    cases missing.symm.trans before
  cases does with
  | bound | unbound | called => exact (changed found).elim
  | registered free =>
      rcases Place.getElem?_concat_eq_some.mp found with before | ⟨rfl, rfl⟩
      · cases missing.symm.trans before
      · exact ⟨_, rfl, rfl, rfl⟩
  | refused | found | recorded | recordedBound | opened | put | committed =>
      cases missing.symm.trans found

/-- **A point that a request tells is of an instrument that it measures.** -/
theorem Does.measured (does : m.Does r operation outcome) {owner : Option Nat} {p : Point}
    (told : .point owner p ∈ outcome.output.flatMap Output.deliveries) :
    ∃ place i, m.instruments[place]? = some i ∧ m.Measures place p.value operation ∧
      p.descriptor = i.descriptor := by
  cases does with
  | refused | unbound =>
      rw [Output.flatMap_deliveries_noted] at told
      cases told
  | found | registered | bound | called | opened | put => cases told
  | recorded instrument standing =>
      cases List.mem_singleton.mp told
      exact ⟨_, instrument, standing, ⟨rfl, rfl⟩, rfl⟩
  | recordedBound instrument binding standing =>
      cases List.mem_singleton.mp told
      exact ⟨_, instrument, standing, ⟨rfl, rfl⟩, rfl⟩
  | committed batch own held =>
      change _ ∈ (Delivery.batchBegin m.nextBatch :: (m.batchPoints batch).map (.point _) ++
        [.batchEnd m.nextBatch]) ++ [] at told
      have inside : Delivery.point owner p ∈
          (m.batchPoints batch).map (.point (some m.nextBatch)) := by
        simpa using told
      obtain ⟨_, member, same⟩ := List.mem_map.mp inside
      cases same
      obtain ⟨⟨place, value⟩, isEntry, isPoint⟩ := List.mem_filterMap.mp member
      obtain ⟨i, standing, rfl⟩ := Option.map_eq_some_iff.mp isPoint
      exact ⟨place, i, standing, ⟨batch, held, isEntry⟩, rfl⟩

end Meter

/-! ## Registering -/

/-- The descriptor of the instrument that is referred to. -/
def State.descriptor? (s : State) (i : InstrumentRef) : Option Descriptor :=
  (s.instrument? i).map Instrument.descriptor

namespace Moment

/-- A request registers an instrument, which was not there, with a descriptor: it builds the
instrument with success, and the descriptor is of the configuration wished for, under the name and
the next number of the meter. -/
structure Registers (q : Moment) (i : InstrumentRef) (d : Descriptor) : Prop where
  missing : q.state.instrument? i = none
  built : ∃ setup m, q.request = .build i.meter setup ∧ q.call.answer = .ok (.instrument i) ∧
    q.state.meter? i.meter = some m ∧ d = setup.config.descriptor m.name m.nextInstrument
  described : q.next.descriptor? i = some d

/-- A request measures an instrument as a value. -/
def Measures (q : Moment) (i : InstrumentRef) (value : Value) : Prop :=
  q.request.home? = some i.meter ∧
    ∃ m, q.state.meter? i.meter = some m ∧ m.Measures i.index value q.request

variable {q : Moment} {i : InstrumentRef} {d : Descriptor}

/-- Descriptors stay. -/
theorem descriptor?_next (known : q.state.descriptor? i = some d) :
    q.next.descriptor? i = some d := by
  obtain ⟨instrument, found, rfl⟩ := Option.map_eq_some_iff.mp known
  obtain ⟨instrument', found', descriptor, _⟩ := q.frozen.instruments i instrument found
  rw [State.descriptor?, found', Option.map_some, descriptor]

/-- A new instrument is registered at the moment. -/
theorem registers_of_new (missing : q.state.instrument? i = none)
    (described : q.next.descriptor? i = some d) : q.Registers i d := by
  obtain ⟨instrument, found, rfl⟩ := Option.map_eq_some_iff.mp described
  obtain ⟨m', isMeter, placed⟩ := State.instrument?_eq_some.mp found
  cases q.turn i.meter with
  | home m outcome home standing does answer next =>
      cases next.symm.trans isMeter
      have unplaced : m.instruments[i.index]? = none := by
        rw [State.instrument?, standing] at missing
        exact missing
      obtain ⟨setup, isBuild, answered, descriptor⟩ := does.new unplaced placed
      exact ⟨missing, ⟨setup, m, isBuild, answer.trans answered, standing, descriptor⟩, described⟩
  | away _ next =>
      rw [State.instrument?, ← next, isMeter] at missing
      cases missing.symm.trans placed
  | made _ _ _ next =>
      cases next.symm.trans isMeter
      cases placed

/-- **A point told at a moment carries the descriptor of an instrument that is measured.** -/
theorem measured_of_given {r : MeterRef} {owner : Option Nat} {p : Point}
    (told : (r, .point owner p) ∈ q.given) :
    ∃ i, i.meter = r ∧ q.Measures i p.value ∧ q.state.descriptor? i = some p.descriptor := by
  obtain ⟨home, m, standing⟩ := State.known_of_given _ told
  cases q.turn r with
  | home m' outcome _ standing' does _ _ given =>
      cases standing.symm.trans standing'
      rw [given] at told
      obtain ⟨_, isTold, same⟩ := List.mem_map.mp told
      cases same
      obtain ⟨place, i, placed, measures, descriptor⟩ := does.measured isTold
      refine ⟨⟨r, place⟩, rfl, ⟨home, m, standing, measures⟩, ?_⟩
      rw [State.descriptor?, State.instrument?_eq_some.mpr ⟨m, standing, placed⟩, descriptor]
      rfl
  | away absent => cases standing.symm.trans (absent home).1
  | made _ homeless => cases homeless.symm.trans home

end Moment

/-- An instrument was registered with a descriptor at one moment, before which it was not there, and
after which it has had the descriptor. -/
def RegisteredOnce (moments : List Moment) (i : InstrumentRef) (d : Descriptor) : Prop :=
  ∃ earlier q later, moments = earlier ++ q :: later ∧
    (∀ before ∈ earlier, before.state.instrument? i = none) ∧ q.Registers i d ∧
    ∀ after ∈ later, after.state.descriptor? i = some d

/-- Descriptors are known from the registrations, and for good. -/
structure Described (moments : List Moment) (s : State) : Prop where
  kept : ∀ q ∈ moments, ∀ i d, q.state.descriptor? i = some d → s.descriptor? i = some d
  once : ∀ i d, s.descriptor? i = some d → RegisteredOnce moments i d

private theorem Described.perform
    {moments : List Moment} {s : State} (described : Described moments s)
    (operation : Operation) :
    Described (moments ++ [⟨s, operation⟩]) (s.perform operation).2 := by
  have next {i : InstrumentRef} {d : Descriptor} (known : s.descriptor? i = some d) :
      (s.perform operation).2.descriptor? i = some d :=
    Moment.descriptor?_next (q := ⟨s, operation⟩) known
  constructor
  · intro q member i d known
    rcases List.mem_append.mp member with before | now
    · exact next (described.kept q before i d known)
    · cases List.mem_singleton.mp now
      exact next known
  · intro i d known
    cases standing : s.instrument? i with
    | none =>
        refine ⟨moments, ⟨s, operation⟩, [], rfl, fun before member => ?_,
          Moment.registers_of_new standing known, nofun⟩
        cases there : before.state.instrument? i with
        | none => rfl
        | some instrument =>
            have kept := described.kept before member i instrument.descriptor
              (by rw [State.descriptor?, there]; rfl)
            rw [State.descriptor?, standing] at kept
            cases kept
    | some instrument =>
        have before : s.descriptor? i = some instrument.descriptor := by
          rw [State.descriptor?, standing]
          rfl
        cases (next before).symm.trans known
        obtain ⟨earlier, q, later, rfl, missing, registers, after⟩ := described.once i _ before
        refine ⟨earlier, q, later ++ [⟨s, operation⟩], by simp, missing, registers, ?_⟩
        intro other member
        rcases List.mem_append.mp member with isLater | now
        · exact after other isLater
        · cases List.mem_singleton.mp now
          exact before

private theorem described_runIn (commands : List OrderedCommand) :
    Described (State.empty.moments commands) (State.empty.runIn commands).2 := by
  refine State.kept_of_runIn (P := fun _ moments s => Described moments s)
    (fun _ _ _ _ described => ⟨described.kept, described.once⟩)
    (fun _ _ _ operation described => described.perform operation)
    (fun _ _ _ _ described => ⟨described.kept, described.once⟩) ⟨nofun, ?_⟩ commands
  intro i d known
  cases known

/-! ## Identification -/

/-- An instrument of a meter that reports to a sink. -/
def State.ReportsTo (s : State) (k : SinkRef) (i : InstrumentRef) : Prop :=
  (s.meter? i.meter).map Meter.sink = some k

/-- **The instruments that report to a sink are identified by their descriptors**, at the end of a
run with some moments, in which the sink was told what the log has. -/
structure Identified (moments : List Moment) (s : State) (k : SinkRef) (log : List Delivery) :
    Prop where
  /-- Two instruments have the same meter and number exactly when they are the same. -/
  numbered : ∀ i j d e, s.ReportsTo k i → s.ReportsTo k j →
    s.descriptor? i = some d → s.descriptor? j = some e →
      (d.meter = e.meter ∧ d.id = e.id ↔ i = j)
  /-- Two instruments have the same meter and name exactly when they are the same. -/
  named : ∀ i j d e, s.ReportsTo k i → s.ReportsTo k j →
    s.descriptor? i = some d → s.descriptor? j = some e →
      (d.meter = e.meter ∧ d.name = e.name ↔ i = j)
  /-- An instrument has had its descriptor since it was registered. -/
  once : ∀ i d, s.descriptor? i = some d → RegisteredOnce moments i d
  /-- A point that the sink was told carries the descriptor of the instrument that was measured. -/
  told : ∀ owner p, .point owner p ∈ log → ∃ q ∈ moments, ∃ i, q.Measures i p.value ∧
    s.ReportsTo k i ∧ s.descriptor? i = some p.descriptor

section Identified

variable {s : State} {registry : Registry} (serves : registry.Serves s) (orderly : s.Orderly)
  {i j : InstrumentRef} {d e : Descriptor}

private theorem exists_described (orderly : s.Orderly) (known : s.descriptor? i = some d) :
    ∃ m instrument, s.meter? i.meter = some m ∧ m.Orderly ∧
      m.instruments[i.index]? = some instrument ∧
      d = instrument.config.descriptor m.name i.index := by
  obtain ⟨instrument, found, rfl⟩ := Option.map_eq_some_iff.mp known
  obtain ⟨m, standing, placed⟩ := State.instrument?_eq_some.mp found
  have inOrder := orderly.meters i.meter m standing
  exact ⟨m, instrument, standing, inOrder, placed, inOrder.described i.index instrument placed⟩

include serves orderly

/-- Descriptors have the name of one meter exactly when the meter is one. -/
theorem meter_eq_iff (reports : s.ReportsTo registry.sink i)
    (reports' : s.ReportsTo registry.sink j)
    (known : s.descriptor? i = some d) (known' : s.descriptor? j = some e) :
    d.meter = e.meter ↔ i.meter = j.meter := by
  obtain ⟨m, _, standing, _, _, rfl⟩ := exists_described orderly known
  obtain ⟨m', _, standing', _, _, rfl⟩ := exists_described orderly known'
  obtain ⟨⟨name, r⟩, listed, same⟩ := List.mem_map.mp (serves.mem_iff.mpr reports')
  cases same
  have owner : m'.name = name := (serves.name_eq_iff listed standing' (by
    rw [State.ReportsTo, standing'] at reports'
    exact Option.some.inj reports')).mpr rfl
  change m.name = m'.name ↔ _
  rw [owner]
  refine serves.name_eq_iff listed standing ?_
  rw [State.ReportsTo, standing] at reports
  exact Option.some.inj reports

private theorem numbered_iff (reports : s.ReportsTo registry.sink i)
    (reports' : s.ReportsTo registry.sink j) (known : s.descriptor? i = some d)
    (known' : s.descriptor? j = some e) : d.meter = e.meter ∧ d.id = e.id ↔ i = j := by
  rw [meter_eq_iff serves orderly reports reports' known known']
  obtain ⟨_, _, _, _, _, rfl⟩ := exists_described orderly known
  obtain ⟨_, _, _, _, _, rfl⟩ := exists_described orderly known'
  obtain ⟨r, place⟩ := i
  obtain ⟨r', place'⟩ := j
  exact InstrumentRef.mk.injEq .. ▸ Iff.rfl

private theorem named_iff (reports : s.ReportsTo registry.sink i)
    (reports' : s.ReportsTo registry.sink j) (known : s.descriptor? i = some d)
    (known' : s.descriptor? j = some e) : d.meter = e.meter ∧ d.name = e.name ↔ i = j := by
  rw [meter_eq_iff serves orderly reports reports' known known']
  constructor
  · rintro ⟨meter, name⟩
    obtain ⟨m, x, standing, inOrder, placed, rfl⟩ := exists_described orderly known
    obtain ⟨m', y, standing', _, placed', rfl⟩ := exists_described orderly known'
    rw [meter] at standing
    cases standing.symm.trans standing'
    have place := inOrder.eq_place placed placed' name
    obtain ⟨r, _⟩ := i
    cases meter
    cases place
    rfl
  · rintro rfl
    cases known.symm.trans known'
    exact ⟨rfl, rfl⟩

end Identified

/-- **A descriptor identifies its instrument**, at the end of every run in which the meters of a
registry, and no others, report to its sink. The log is what they told it. -/
theorem identified_runIn (commands : List OrderedCommand) {s : State}
    (ran : (State.empty.runIn commands).2 = s) {place : Nat} {registry : Registry}
    (standing : s.registries[place]? = some registry)
    (only : ∀ r m, s.meter? r = some m → m.sink = registry.sink →
      ∃ name, (name, r) ∈ registry.meters) {log : List Delivery}
    (logged : s.toldTo registry.sink (State.empty.traffic commands) = log) :
    s.sink? registry.sink =
        ((commands.filterMap OrderedCommand.sink?)[registry.sink.index]?).map
          (log.foldl Sink.receive) ∧
      Identified (State.empty.moments commands) s registry.sink log := by
  subst ran logged
  have orderly := State.orderly_runIn commands
  have described := described_runIn commands
  have serves : registry.Serves (State.empty.runIn commands).2 :=
    ⟨orderly.distinct place registry standing, orderly.listed place registry standing, only⟩
  refine ⟨(State.tallied_runIn commands).told registry.sink, ?_, ?_, described.once, ?_⟩
  · exact fun i j d e => numbered_iff serves orderly
  · exact fun i j d e => named_iff serves orderly
  · intro owner p told
    obtain ⟨⟨r, _⟩, isTold, same⟩ := List.mem_map.mp told
    cases same
    obtain ⟨isTraffic, reports⟩ := List.mem_filter.mp isTold
    have reports := of_decide_eq_true reports
    rw [State.traffic_eq_flatMap] at isTraffic
    obtain ⟨q, member, given⟩ := List.mem_flatMap.mp isTraffic
    obtain ⟨i, rfl, measures, known⟩ := Moment.measured_of_given given
    exact ⟨q, member, i, measures, reports, described.kept q member i _ known⟩

/-- Two meters of one registry build instruments of one name, each the first of its meter; one is
built again, and asked for otherwise, and measured. -/
def namesakes : List OrderedCommand :=
  [.createSink (.recording []), .perform (.createRegistry ⟨0⟩), .perform (.getMeter ⟨0⟩ "a"),
    .perform (.getMeter ⟨0⟩ "b"), .perform (.build ⟨0⟩ ⟨"x", .counter, .long, []⟩),
    .perform (.build ⟨1⟩ ⟨"x", .counter, .long, []⟩),
    .perform (.build ⟨0⟩ ⟨"x", .counter, .long, []⟩),
    .perform (.build ⟨0⟩ ⟨"x", .counter, .double, []⟩),
    .perform (.record ⟨⟨1⟩, 0⟩ (.long 2) .empty)]

/-- Two meters of a registry have each an instrument of the same name, and a value recorded for the
one is delivered under its own meter. -/
theorem identified_namesakes :
    (State.empty.runIn namesakes).2.registries[0]? = some ⟨⟨0⟩, [("a", ⟨0⟩), ("b", ⟨1⟩)]⟩ ∧
    Identified (State.empty.moments namesakes) (State.empty.runIn namesakes).2 ⟨0⟩
      [.point none ⟨⟨"b", 0, "x", .counter, .long, none⟩, .empty, .long 2⟩] := by
  have standing : (State.empty.runIn namesakes).2.registries[0]? =
      some ⟨⟨0⟩, [("a", ⟨0⟩), ("b", ⟨1⟩)]⟩ := by decide +kernel
  have two : (State.empty.runIn namesakes).2.meters.length = 2 := by decide +kernel
  refine ⟨standing, (identified_runIn namesakes rfl standing ?_ (by decide +kernel)).2⟩
  intro r m found _
  have inside : r.index < 2 := two ▸ (List.getElem?_eq_some_iff.mp found).1
  obtain ⟨index⟩ := r
  match index with
  | 0 => exact ⟨"a", by decide⟩
  | 1 => exact ⟨"b", by decide⟩

end Metering
