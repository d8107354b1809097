import Metering.Proofs.LabelSet
import Metering.Proofs.Stream.Perform

/-! # Sinks receive what is recorded

At the end of every history, each sink has received exactly what the accepted calls emit to it, in
the order of the calls (`Metering.faithful_of_history`). No point is lost, repeated or reordered,
and none arrives that was refused. Each point is one of a registered instrument, with a value that
the instrument takes, under the labels of the caller as overridden by the constants.
-/

namespace Metering

variable {sinks : List Sink} {calls : List Call} {s s' : State}

namespace State

/-- What the calls made so far tell a sink. -/
def expected (s : State) (calls : List Call) (k : SinkRef) : List Delivery :=
  (emissions calls).flatMap (s.emitted k)

/-- All that an emission is about is there, and the values are allowed. -/
structure Covers (s : State) (e : Emission) : Prop where
  meter : ∃ m, s.meter? e.meter = some m
  instruments : ∀ x ∈ e.measurements, x.instrument.meter = e.meter ∧
    ∃ i, s.instrument? x.instrument = some i ∧ i.config.Takes x.value
  distinct : (e.measurements.map Measurement.instrument).Nodup

private theorem Covers.frozen {e : Emission} (covers : s.Covers e) (frozen : s.Frozen s') :
    s'.Covers e where
  meter := by
    obtain ⟨m, found⟩ := covers.meter
    obtain ⟨m', found', _⟩ := frozen.meters _ _ found
    exact ⟨m', found'⟩
  instruments x member := by
    obtain ⟨here, i, found, takes⟩ := covers.instruments x member
    obtain ⟨i', found', _, config⟩ := frozen.instruments _ _ found
    exact ⟨here, i', found', config.symm ▸ takes⟩
  distinct := covers.distinct

/-- A measurement of an instrument that stands makes the same point later. -/
theorem point?_frozen {x : Measurement} {i : Instrument} (frozen : s.Frozen s')
    (found : s.instrument? x.instrument = some i) : s'.point? x = s.point? x := by
  obtain ⟨i', found', descriptor, config⟩ := frozen.instruments _ _ found
  rw [point?, found', point?, found, Option.map_some, Option.map_some, Instrument.pointWith,
    Instrument.point, descriptor, config]
  rfl

/-- What was emitted before tells the same later. -/
theorem emitted_frozen {e : Emission} (covers : s.Covers e) (frozen : s.Frozen s') (k : SinkRef) :
    s'.emitted k e = s.emitted k e := by
  obtain ⟨m, found⟩ := covers.meter
  obtain ⟨m', found', sink⟩ := frozen.meters _ _ found
  have points : ∀ x ∈ e.measurements, s'.point? x = s.point? x := by
    intro x member
    obtain ⟨_, i, standing, _⟩ := covers.instruments x member
    exact point?_frozen frozen standing
  have same : s'.deliveries e = s.deliveries e := by
    cases e with
    | single x => rw [deliveries, points x (List.mem_singleton_self x), deliveries]
    | batch r number members =>
        have told : members.filterMap s'.point? = members.filterMap s.point? :=
          List.filterMap_congr points
        rw [deliveries, told, deliveries]
  rw [emitted, found', Option.map_some, sink, same, emitted, found, Option.map_some]

/-- Every accepted call to record emits, and no other call does. -/
def Emitting (calls : List Call) : Prop :=
  ∀ earlier c later, calls = earlier ++ c :: later →
    (c.emission? (accountOf earlier)).isSome = c.isRecorded

private theorem Emitting.concat {c : Call} (emitting : Emitting calls)
    (emits : (c.emission? (accountOf calls)).isSome = c.isRecorded) : Emitting (calls ++ [c]) := by
  intro earlier c' later split
  rcases List.eq_nil_or_concat later with rfl | ⟨front, last, rfl⟩
  · obtain ⟨rfl, same⟩ := List.append_inj' split rfl
    rw [← List.singleton_inj.mp same]
    exact emits
  · rw [List.concat_eq_append, ← List.cons_append, ← List.append_assoc] at split
    exact emitting earlier c' front (List.append_inj' split rfl).1

/-- All who were given one handle bound the same labels. -/
def Agreeing (calls : List Call) : Prop :=
  ∀ c ∈ calls, ∀ h labels, c.bound? h = some labels →
    (accountOf calls h.instrument.meter).bound h.instrument.index h.identity = some labels

private theorem Agreeing.concat {c : Call} (agreeing : Agreeing calls)
    (agrees : ∀ h labels, c.bound? h = some labels →
      (accountOf (calls ++ [c]) h.instrument.meter).bound h.instrument.index h.identity =
        some labels) : Agreeing (calls ++ [c]) := by
  intro c' member h labels bound
  rcases List.mem_append.mp member with before | new
  · rw [accountOf_concat]
    change ((accountOf calls h.instrument.meter).bound _ _).or _ = some labels
    rw [agreeing c' before h labels bound, Option.some_or]
  · rw [List.mem_singleton.mp new] at bound
    exact agrees h labels bound

/-- The calls account for the state. -/
structure Accounted (sinks : List Sink) (calls : List Call) (s : State) : Prop where
  sound : s.Sound
  accounts : s.account = accountOf calls
  taken : ∀ c ∈ calls, ∀ i value, c.taken? = some (i, value) →
    ∃ instrument, s.instrument? i = some instrument ∧ instrument.config.Takes value
  emitting : Emitting calls
  agreeing : Agreeing calls
  covered : ∀ e ∈ emissions calls, s.Covers e
  told : ∀ k, s.sink? k = sinks[k.index]?.map fun sink =>
    (s.expected calls k).foldl Sink.receive sink

/-- A value put in a batch is one that was taken. -/
theorem taken?_of_put? {b : BatchRef} {c : Call} {i : InstrumentRef} {value : Value}
    (put : c.put? b = some (i, value)) : c.taken? = some (i, value) := by
  obtain ⟨request, answer⟩ := c
  cases answer with
  | error e => cases request <;> cases put
  | ok a =>
      cases request with
      | put b' i' value' =>
          obtain ⟨_, same⟩ := Option.ite_none_right_eq_some.mp put
          exact same
      | _ => cases put

private theorem meter_of_mem_entries {r : MeterRef} {place : Nat} {entry : InstrumentRef × Value}
    (member : entry ∈ (s.account r).entries place) : entry.1.meter = r := by
  rw [account] at member
  cases found : s.meter? r with
  | none =>
      rw [found] at member
      cases member
  | some m =>
      rw [found] at member
      obtain ⟨_, _, rfl⟩ := List.mem_map.mp member
      rfl

/-- What a call emits is covered by the state that it is made of. -/
theorem Accounted.covers {c : Call} {e : Emission} (accounted : s.Accounted sinks calls)
    (advance : s.Advance c s') (emits : c.emission? s.account = some e) : s.Covers e := by
  refine ⟨advance.placed e emits, ?_, ?_⟩
  · intro x member
    rcases c.emission?_cases emits with
      ⟨i, value, labels, a, rfl, rfl⟩ | ⟨h, value, labels, a, rfl, _, rfl⟩ |
      ⟨b, labels, a, _, _, rfl⟩
    · rw [List.mem_singleton.mp member]
      exact ⟨rfl, advance.taken i value rfl⟩
    · rw [List.mem_singleton.mp member]
      exact ⟨rfl, advance.taken h.instrument value rfl⟩
    · obtain ⟨⟨i, value⟩, entry, rfl⟩ := List.mem_map.mp member
      refine ⟨meter_of_mem_entries entry, ?_⟩
      rw [accounted.accounts] at entry
      obtain ⟨put, isCall, isPut⟩ := List.mem_filterMap.mp (mem_of_mem_settled entry)
      exact accounted.taken put isCall i value (taken?_of_put? isPut)
  · rcases c.emission?_cases emits with
      ⟨_, _, _, _, _, rfl⟩ | ⟨_, _, _, _, _, _, rfl⟩ | ⟨b, labels, _, _, _, rfl⟩
    · exact List.nodup_singleton _
    · exact List.nodup_singleton _
    · rw [Emission.measurements, List.map_map, accounted.accounts]
      exact nodup_settled _

/-- Nothing is told to a sink that is not there. -/
theorem Accounted.expected_eq_nil {k : SinkRef} (accounted : s.Accounted sinks calls)
    (missing : s.sink? k = none) : s.expected calls k = [] := by
  refine List.flatMap_eq_nil_iff.mpr fun e member => ?_
  obtain ⟨m, found⟩ := (accounted.covered e member).meter
  obtain ⟨sink, there⟩ := accounted.sound.sinks e.meter m found
  rw [emitted, found, Option.map_some]
  refine if_neg fun same => ?_
  rw [Option.some.inj same, missing] at there
  cases there

/-- At first nothing was called and nothing delivered. -/
theorem accounted_empty : Accounted [] [] .empty where
  sound := ⟨fun _ _ found => (by cases found), fun _ _ found => (by cases found)⟩
  accounts := rfl
  taken := nofun
  emitting _ _ _ split := absurd split (by simp)
  agreeing := nofun
  covered := nofun
  told _ := rfl

/-- The account is kept by a request. -/
theorem Accounted.perform (accounted : s.Accounted sinks calls) (operation : Operation) :
    (s.perform operation).2.Accounted sinks (calls ++ [s.call operation]) := by
  have advance := advance_of_perform accounted.sound operation
  have emission : emissions (calls ++ [s.call operation]) =
      emissions calls ++ ((s.call operation).emission? s.account).toList := by
    rw [emissions_concat, accounted.accounts]
  have covers (e : Emission) (emits : (s.call operation).emission? s.account = some e) :
      s.Covers e := accounted.covers advance emits
  have covered : ∀ e ∈ emissions (calls ++ [s.call operation]), s.Covers e := by
    intro e member
    rw [emission] at member
    rcases List.mem_append.mp member with before | new
    · exact accounted.covered e before
    · exact covers e (Option.mem_toList.mp new)
  have accounts : (s.perform operation).2.account = accountOf (calls ++ [s.call operation]) := by
    funext r
    rw [advance.account, accountOf_concat, accounted.accounts]
  constructor
  · exact advance.sound
  · exact accounts
  · intro c member i value taken
    have standing : ∃ instrument, s.instrument? i = some instrument ∧
        instrument.config.Takes value := by
      rcases List.mem_append.mp member with before | new
      · exact accounted.taken c before i value taken
      · rw [List.mem_singleton.mp new] at taken
        exact advance.taken i value taken
    obtain ⟨instrument, found, takes⟩ := standing
    obtain ⟨instrument', found', _, config⟩ := advance.frozen.instruments i instrument found
    exact ⟨instrument', found', config.symm ▸ takes⟩
  · apply accounted.emitting.concat
    rw [← accounted.accounts]
    exact s.emits_of_perform operation
  · refine accounted.agreeing.concat fun h labels bound => ?_
    rw [← accounts]
    exact bound_of_perform accounted.sound operation bound
  · exact fun e member => (covered e member).frozen advance.frozen
  · intro k
    have same : (s.perform operation).2.expected (calls ++ [s.call operation]) k =
        s.expected calls k ++
          ((s.call operation).emission? s.account).toList.flatMap (s.emitted k) := by
      rw [expected, List.flatMap_congr fun e member =>
        emitted_frozen (covered e member) advance.frozen k, emission, List.flatMap_append, expected]
    rw [advance.told, accounted.told, Option.map_map, same]
    congr 1
    funext sink
    exact List.foldl_append.symm

/-- The account is kept as a sink is created. -/
theorem Accounted.createSink (accounted : s.Accounted sinks calls) (sink : Sink) :
    (s.createSink sink).2.Accounted (sinks ++ [sink]) calls where
  sound := by
    refine ⟨accounted.sound.instruments, fun r m found => ?_⟩
    obtain ⟨held, there⟩ := accounted.sound.sinks r m found
    exact ⟨held, Place.getElem?_concat_eq_some.mpr (Or.inl there)⟩
  accounts := accounted.accounts
  taken := accounted.taken
  emitting := accounted.emitting
  agreeing := accounted.agreeing
  covered e member := ⟨(accounted.covered e member).meter, (accounted.covered e member).instruments,
    (accounted.covered e member).distinct⟩
  told k := by
    refine Place.told_concat (fun place => accounted.told ⟨place⟩) (fun place missing sink => ?_)
      sink k.index
    rw [accounted.expected_eq_nil missing, List.foldl_nil]

/-- The account is kept as an entry is written. -/
theorem Accounted.note (accounted : s.Accounted sinks calls) (entry : Entry) :
    (s.note entry).Accounted sinks calls where
  sound := ⟨accounted.sound.instruments, accounted.sound.sinks⟩
  accounts := accounted.accounts
  taken := accounted.taken
  emitting := accounted.emitting
  agreeing := accounted.agreeing
  covered e member := ⟨(accounted.covered e member).meter, (accounted.covered e member).instruments,
    (accounted.covered e member).distinct⟩
  told := accounted.told

/-- In every history, the calls account for the state at its end. -/
theorem accounted_of_history (history : History sinks calls s) : s.Accounted sinks calls :=
  history.invariant (P := fun sinks calls s => s.Accounted sinks calls) accounted_empty
    (fun _ _ _ sink accounted => accounted.createSink sink)
    (fun _ _ _ operation accounted => accounted.perform operation)
    fun _ _ _ entry accounted => accounted.note entry

end State

/-! ## Points as they are told -/

/-- What an absolute measure takes: no value below zero and no NaN. The negative zero is neither. -/
def Value.AtLeastZero : Value → Prop
  | .long n => 0 ≤ n.toInt
  | .double x => x.isNaN = false ∧ (x.isNegative = false ∨ x.isZero = true)

private theorem Value.atLeastZero_iff {value : Value} :
    value.isNonNegative = true ↔ value.AtLeastZero := by
  cases value with
  | long n => exact decide_eq_true_iff
  | double x => simp [isNonNegative, Double.isNonNegative, AtLeastZero]

/-- A point as told to a sink of a measurement: the instrument is registered in a meter that uses
the sink, it takes the value, and the labels are those of the caller overridden by its constants. -/
structure Means (s : State) (k : SinkRef) (x : Measurement) (point : Point) (m : Meter)
    (i : Instrument) : Prop where
  meter : s.meter? x.instrument.meter = some m
  sink : m.sink = k
  registered : m.instruments[x.instrument.index]? = some i
  descriptor : point.descriptor = i.descriptor
  described : ∃ meter id, i.descriptor = i.config.descriptor meter id
  value : point.value = x.value
  number : point.value.kind = point.descriptor.number
  labels : ∀ key, point.labels.get? key = (i.config.constants.get? key).or (x.labels.get? key)
  absolute : i.config.kind = .measure → i.config.absolute = true → point.value.AtLeastZero

/-- What the sinks have received is what was recorded. -/
structure Faithful (sinks : List Sink) (calls : List Call) (s : State) : Prop where
  /-- Each sink has received what the calls emit to it, in order, and nothing else. -/
  received : ∀ k, s.sink? k = sinks[k.index]?.map fun sink =>
    (s.expected calls k).foldl Sink.receive sink
  /-- Each accepted call to record emits once, and no other call does. -/
  emits : ∀ earlier c later, calls = earlier ++ c :: later →
    (c.emission? (accountOf earlier)).isSome = c.isRecorded
  /-- Whoever was given a handle bound the labels under which it records. -/
  agrees : ∀ c ∈ calls, ∀ h labels, c.bound? h = some labels →
    (accountOf calls h.instrument.meter).bound h.instrument.index h.identity = some labels
  /-- Each measurement emitted is told as one point to the sink of its meter, and those of one batch
  are of distinct instruments. -/
  told : ∀ e ∈ emissions calls, (e.measurements.map Measurement.instrument).Nodup ∧
    ∃ m, s.meter? e.meter = some m ∧ ∀ x ∈ e.measurements, ∃ point i,
      s.point? x = some point ∧ Means s m.sink x point m i
  /-- Each point that a sink is told is that of a measurement emitted. -/
  meant : ∀ k batch point, .point batch point ∈ s.expected calls k →
    ∃ e ∈ emissions calls, ∃ x ∈ e.measurements, ∃ m i, Means s k x point m i

private theorem Means.of_takes {x : Measurement} {m : Meter} {i : Instrument} (sound : i.Sound)
    (meter : s.meter? x.instrument.meter = some m)
    (registered : m.instruments[x.instrument.index]? = some i) (takes : i.config.Takes x.value) :
    Means s m.sink x (i.pointWith x.labels x.value) m i where
  meter := meter
  sink := rfl
  registered := registered
  descriptor := rfl
  described := sound.described
  value := rfl
  number := by
    obtain ⟨name, id, described⟩ := sound.described
    change x.value.kind = i.descriptor.number
    rw [described]
    exact takes.kind
  labels := LabelSet.get?_mergedWith x.labels i.config.constants
  absolute kind absolute := by
    refine Value.atLeastZero_iff.mp (takes.sign ?_)
    rw [Config.requiresNonNegative, kind, absolute]
    rfl

/-- Each measurement of an emission makes a point that means it. -/
theorem State.Accounted.means {e : Emission} {x : Measurement}
    (accounted : s.Accounted sinks calls) (emitted : e ∈ emissions calls)
    (member : x ∈ e.measurements) : ∃ m i, s.meter? e.meter = some m ∧
      s.point? x = some (i.pointWith x.labels x.value) ∧
      Means s m.sink x (i.pointWith x.labels x.value) m i := by
  obtain ⟨here, i, found, takes⟩ := (accounted.covered e emitted).instruments x member
  obtain ⟨m, meter, registered⟩ := State.instrument?_eq_some.mp found
  refine ⟨m, i, here ▸ meter, ?_, Means.of_takes (accounted.sound.instruments _ i found) meter
    registered takes⟩
  rw [State.point?, found, Option.map_some]

/-- A point that is told of an emission is that of one of its measurements. -/
theorem State.exists_measurement {e : Emission} {batch : Option Nat} {point : Point}
    (told : Delivery.point batch point ∈ s.deliveries e) :
    ∃ x ∈ e.measurements, s.point? x = some point := by
  cases e with
  | single x =>
      obtain ⟨_, isPoint, same⟩ := List.mem_map.mp told
      cases same
      exact ⟨x, List.mem_singleton_self x, Option.mem_toList.mp isPoint⟩
  | batch r number members =>
      have inside : Delivery.point batch point ∈
          (members.filterMap s.point?).map (Delivery.point (some number)) := by
        rcases List.mem_append.mp told with first | last
        · rcases List.mem_cons.mp first with begins | inside
          · cases begins
          · exact inside
        · cases List.mem_singleton.mp last
      obtain ⟨_, isPoint, same⟩ := List.mem_map.mp inside
      cases same
      exact List.mem_filterMap.mp isPoint

/-- **Sinks receive what is recorded**, at the end of every history. -/
theorem faithful_of_history (history : History sinks calls s) : Faithful sinks calls s := by
  have accounted := State.accounted_of_history history
  refine ⟨accounted.told, accounted.emitting, accounted.agreeing, ?_, ?_⟩
  · intro e emitted
    have covers := accounted.covered e emitted
    obtain ⟨m, meter⟩ := covers.meter
    refine ⟨covers.distinct, m, meter, fun x member => ?_⟩
    obtain ⟨m', i, meter', point, means⟩ := accounted.means emitted member
    cases meter.symm.trans meter'
    exact ⟨_, i, point, means⟩
  · intro k batch point told
    obtain ⟨e, emitted, isTold⟩ := List.mem_flatMap.mp told
    by_cases here : (s.meter? e.meter).map Meter.sink = some k
    · rw [State.emitted, if_pos here] at isTold
      obtain ⟨x, member, isPoint⟩ := State.exists_measurement isTold
      obtain ⟨m, i, meter, isPoint', means⟩ := accounted.means emitted member
      rw [meter] at here
      cases here
      cases isPoint.symm.trans isPoint'
      exact ⟨e, emitted, x, member, m, i, means⟩
    · rw [State.emitted, if_neg here] at isTold
      cases isTold

/-- A state with a recording sink and a meter that reports to it. -/
def metered : State :=
  ((State.empty.createSink (.recording [])).2.perform (.createMeter ⟨"m", none, ⟨0⟩, 1⟩)).2

/-- The state after an absolute measure was built. -/
def measured : State :=
  (metered.perform (.build ⟨0⟩ ⟨"size", .measure, .long, [.absolute true]⟩)).2

/-- A measure takes a value of at least zero, and the sink is given one delivery. -/
theorem faithful_measured :
    Faithful [.recording []]
      [(State.empty.createSink (.recording [])).2.call (.createMeter ⟨"m", none, ⟨0⟩, 1⟩),
        metered.call (.build ⟨0⟩ ⟨"size", .measure, .long, [.absolute true]⟩),
        measured.call (.record ⟨⟨0⟩, 0⟩ (.long 3) .empty)]
      (measured.perform (.record ⟨⟨0⟩, 0⟩ (.long 3) .empty)).2 ∧
    ((measured.perform (.record ⟨⟨0⟩, 0⟩ (.long 3) .empty)).2.sink? ⟨0⟩).map
      (fun sink => sink.deliveries.length) = some 1 :=
  ⟨faithful_of_history
    (((History.empty.createSink (.recording [])).perform (.createMeter ⟨"m", none, ⟨0⟩, 1⟩)).perform
      (.build ⟨0⟩ ⟨"size", .measure, .long, [.absolute true]⟩) |>.perform
        (.record ⟨⟨0⟩, 0⟩ (.long 3) .empty)), by decide +kernel⟩

end Metering
