import Metering.Concurrent.Gate
import Metering.Concurrent.Handles
import Metering.Concurrent.Lookups
import Metering.Meter.Batching
import Metering.Meter.Registration

/-!
# Workloads

Five trials of threads on shared objects, each run under one schedule, the one that gives the threads
a turn one after the other until all have finished. What holds under every schedule is proved of the
machines that the trials run, not of what a trial reports: of handles in
`Metering.Concurrent.HandleState.shared_of_reachable`, of registries in
`Metering.Concurrent.LookupState.unique_of_reachable`, of batches and points in
`Metering.Concurrent.GateState.indivisible_of_reachable`; and of builds, which the trial makes one
after the other, in `Metering.Concurrent.BuildState.writeOnce_of_reachable`. All but the trial on a
registry use a meter with a counter named `ops`.
-/

namespace Metering.Concurrent

/-- The counter of a trial. -/
def trialCounter : Instrument :=
  let config := Config.draft "ops" .counter .long
  ⟨config.descriptor "trial" 0, config, .empty, none⟩

/-- The meter of a trial, with its counter as the first instrument. -/
def trialMeter : Meter :=
  { Meter.ofSetup ⟨"trial", none, ⟨0⟩, Stripe.default⟩ with
    nextInstrument := 1
    instruments := [trialCounter] }

/-- A value of one. -/
def one : Value :=
  .long 1

/-- What binding, recording and releasing came to: rounds in which recording and releasing both
succeeded, live bindings left, and points told. -/
structure BindResult where
  ok : Nat
  boundCount : Nat
  points : Nat
deriving DecidableEq

/-- Whether a command was answered without a refusal. -/
def HandleAnswer.isOk : HandleAnswer → Bool
  | .bound _ => true
  | .recorded _ answer | .unbound _ answer => answer.toOption.isSome

/-- The number of rounds of binding, recording and releasing in which nothing was refused. -/
def roundsOk : List HandleAnswer → Nat
  | bound :: recorded :: unbound :: rest =>
    (if bound.isOk && recorded.isOk && unbound.isOk then 1 else 0) + roundsOk rest
  | _ => 0

/-- Every thread binds, records one and releases, round after round. -/
def bindTrial (i : Instrument) (threads rounds : Nat) (labels : LabelSet) : BindResult :=
  let round : List HandleCommand := [.bind labels, .record .own one, .unbind .own]
  let programs := List.replicate threads (List.replicate rounds round).flatten
  let schedule := Machine.roundRobin threads (5 * rounds)
  let s := (HandleState.machine i).run schedule (.start programs)
  let ok := (List.range threads).map fun t => roundsOk (s.answersOf t)
  ⟨ok.foldl Nat.add 0, s.table.size, s.told.length⟩

/-- What sharing handles came to: whether all handles were equal, their count and the live bindings
before the releases, successful releases, the refusal of one release more, and the live bindings at
the end. -/
structure ShareResult where
  same : Bool
  refs : Nat
  boundCount : Nat
  unbound : Nat
  extra : Option Error
  left : Nat
deriving DecidableEq

/-- Releases each of some bindings once; the answer has the number of releases that succeeded. -/
def releaseEach (t : BindingTable) : List Nat → BindingTable × Nat
  | [] => (t, 0)
  | identity :: rest =>
    match t.release identity with
    | none => releaseEach t rest
    | some (t, _) =>
      let (t, released) := releaseEach t rest
      (t, released + 1)

/-- Every thread binds round after round and keeps the handles; then each handle is released. -/
def shareTrial (i : Instrument) (threads rounds : Nat) (labels : LabelSet) : ShareResult :=
  let programs := List.replicate threads (List.replicate rounds (HandleCommand.bind labels))
  let s := (HandleState.machine i).run (Machine.roundRobin threads rounds) (.start programs)
  let handles := s.answers.filterMap fun
    | (_, .bound identity) => some identity
    | _ => none
  let (table, unbound) := releaseEach s.table handles
  let refs := (handles.head?.bind fun h => s.table.made[h]?).map Binding.refs
  let extra := handles.head?.bind fun h =>
    match table.release h with
    | some _ => none
    | none => table.made[h]?.map i.unknownBinding
  ⟨handles.all fun h => handles.head? == some h, refs.getD 0, s.table.size, unbound, extra,
    table.size⟩

/-- What sharing a registry came to: the number of its meters, and whether all threads got the same
meters. -/
structure RegistryResult where
  size : Nat
  same : Bool
deriving DecidableEq

/-- Every thread gets the same names from one registry. -/
def registryTrial (threads rounds : Nat) : RegistryResult :=
  let s : State := { State.empty with sinks := [.silent], registries := [⟨⟨0⟩, []⟩] }
  let names := (List.range rounds).map fun n => "m" ++ toString n
  let schedule := Machine.roundRobin threads (2 * rounds)
  let s := (LookupState.machine ⟨0⟩).run schedule (.start s (List.replicate threads names))
  let lists := (List.range threads).map s.metersOf
  let size := ((s.state.registryAt? ⟨0⟩).map fun r => r.meters.length).getD 0
  ⟨size, lists.all fun list => lists.head? == some list⟩

/-- What building one name in different ways came to: the instruments of the meter, whether all that
were built are one instrument, its number, whether all threads of some parity succeeded, and whether
those of both did. -/
structure BuildResult where
  instruments : Nat
  same : Bool
  id : Option Nat
  oneSideOk : Bool
  bothOk : Bool
deriving DecidableEq

/-- Threads build one gauge after the other, each with its own settings. -/
def buildEach (m : Meter) : List (List Setting) → List (Except Failure Nat) × Meter
  | [] => ([], m)
  | settings :: rest =>
    let outcome := m.build ⟨"shared", .gauge, .double, settings⟩
    let (answers, m) := buildEach outcome.meter rest
    (outcome.answer :: answers, m)

/-- Every thread builds one gauge; the odd threads wish for another unit if there are several
rounds. -/
def buildTrial (m : Meter) (threads rounds : Nat) : BuildResult :=
  let unitOf (t : Nat) := if t % 2 == 1 && decide (1 < rounds) then "v" else "u"
  let (answers, m) := buildEach m ((List.range threads).map fun t => [.unit (unitOf t)])
  let built := answers.filterMap Except.toOption
  let side (parity : Nat) := answers.zipIdx.all fun (answer, t) =>
    t % 2 != parity || answer.toOption.isSome
  let id := built.head?.bind fun place => m.instruments[place]?.map fun i => i.descriptor.id
  ⟨m.instruments.length, built.all fun place => built.head? == some place, id,
    side 0 || side 1, side 0 && side 1⟩

/-- What mixing batches and points came to: whether the brackets are clean, the number of batches,
whether their numbers ascend from zero, and the points outside and inside batches. -/
structure BatchResult where
  clean : Bool
  batches : Nat
  ascending : Bool
  singles : Nat
  inBatches : Nat
deriving DecidableEq

/-- Whether no batches nest and every point lies inside the brackets of its own batch, or outside
all brackets if it has none; `current` is the batch whose brackets are open. -/
def isClean (current : Option Nat) : List Delivery → Bool
  | [] => current.isNone
  | .batchBegin batch :: rest => current.isNone && isClean (some batch) rest
  | .batchEnd batch :: rest => current == some batch && isClean none rest
  | .point owner _ :: rest => owner == current && isClean current rest

/-- The numbers of the batches in order of their beginning. -/
def batchNumbers (stream : List Delivery) : List Nat :=
  stream.filterMap fun
    | .batchBegin batch => some batch
    | _ => none

/-- The number of points in a stream that belong to a batch, or to none. -/
def countPoints (inBatch : Bool) (stream : List Delivery) : Nat :=
  stream.countP fun
    | .point owner _ => owner.isSome == inBatch
    | _ => false

/-- What one round of the batch trial brings to the gate: a batch of the first two instruments of a
meter, then one point of the first. -/
def batchRound (m : Meter) (labels : LabelSet) (level : Value) : List Passage :=
  let points := m.batchPoints ⟨labels, [(0, one), (1, level)], false⟩
  .batch labels points :: (points.take 1).map (.single labels)

/-- Every thread records a batch and then a point, round after round, all on the same labels. -/
def batchTrial (m : Meter) (threads rounds : Nat) (labels : LabelSet) : BatchResult :=
  let m := (m.build ⟨"depth", .gauge, .double, []⟩).meter
  let program := (List.range rounds).flatMap fun round =>
    batchRound m labels (.double (.ofNat round))
  let schedule := Machine.roundRobin threads (10 * threads * rounds)
  let gates := (GateState.machine (stripeOf m.stripes fun _ => 0)).run schedule
    (.start (List.replicate threads program))
  let numbers := batchNumbers gates.stream
  ⟨isClean none gates.stream, numbers.length, numbers == List.range numbers.length,
    countPoints false gates.stream, countPoints true gates.stream⟩

end Metering.Concurrent
