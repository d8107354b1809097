import Metering.Proofs.Place
import Metering.State.Operations

/-! # What giving out changes

What a meter gives out reaches its own sink, in order, and the journal. No other sink, no meter and
no registry is touched, so that a request to one meter changes that meter and its sink alone
(`Metering.State.atMeter_ok`).
-/

namespace Metering

/-- What the sink is told of something given out. -/
def Output.deliveries : Output → List Delivery
  | .passed number passage => passage.deliveries number
  | .noted _ => []

/-- A recording sink keeps all that it receives. -/
theorem foldl_receive_recording (kept deliveries : List Delivery) :
    deliveries.foldl Sink.receive (.recording kept) = .recording (kept ++ deliveries) := by
  induction deliveries generalizing kept with
  | nil => rw [List.foldl_nil, List.append_nil]
  | cons delivery deliveries ih =>
      rw [List.foldl_cons, Sink.receive, ih, List.append_assoc, List.singleton_append]

/-- A plain sink keeps the points that it receives. -/
theorem foldl_receive_plain (kept : List Point) (deliveries : List Delivery) :
    deliveries.foldl Sink.receive (.plain kept) =
      .plain (kept ++ deliveries.filterMap Delivery.point?) := by
  induction deliveries generalizing kept with
  | nil => rw [List.foldl_nil, List.filterMap_nil, List.append_nil]
  | cons delivery deliveries ih =>
      rw [List.foldl_cons, Sink.receive, ih, List.append_assoc]
      cases delivery <;> rfl

/-- A sink that keeps nothing stays as it is. -/
theorem foldl_receive_eq_self {sink : Sink} (keeps : ∀ delivery, sink.receive delivery = sink)
    (deliveries : List Delivery) : deliveries.foldl Sink.receive sink = sink := by
  induction deliveries with
  | nil => rfl
  | cons delivery deliveries ih => rw [List.foldl_cons, keeps, ih]

/-- What a sink reports does not depend on what it has kept. -/
theorem reports_foldl_receive (sink : Sink) (deliveries : List Delivery) :
    (deliveries.foldl Sink.receive sink).reports = sink.reports := by
  induction deliveries generalizing sink with
  | nil => rfl
  | cons delivery deliveries ih =>
      rw [List.foldl_cons, ih]
      cases sink <;> rfl

namespace State

variable (s : State) (k : SinkRef)

/-- Giving out neither reads nor changes meters and registries. -/
theorem giveAll_frame (meters : List Meter) (registries : List Registry) (output : List Output) :
    ({ s with meters := meters, registries := registries } : State).giveAll k output =
      { s.giveAll k output with meters := meters, registries := registries } := by
  have one (s : State) (delivery : Delivery) :
      ({ s with meters := meters, registries := registries } : State).deliver k delivery =
        { s.deliver k delivery with meters := meters, registries := registries } := by
    have same : ({ s with meters := meters, registries := registries } : State).sink? k =
        s.sink? k := rfl
    rw [deliver, same, deliver]
    cases s.sink? k <;> rfl
  have all (s : State) (deliveries : List Delivery) :
      deliveries.foldl (fun s delivery => s.deliver k delivery)
          { s with meters := meters, registries := registries } =
        { deliveries.foldl (fun s delivery => s.deliver k delivery) s with
          meters := meters, registries := registries } := by
    induction deliveries generalizing s with
    | nil => rfl
    | cons delivery deliveries ih => rw [List.foldl_cons, one, ih, List.foldl_cons]
  induction output generalizing s with
  | nil => rfl
  | cons out output ih =>
      rw [giveAll, List.foldl_cons, giveAll, List.foldl_cons, ← giveAll, ← giveAll, ← ih]
      cases out with
      | passed number passage => exact congrArg (State.giveAll · k output) (all s _)
      | noted entry => rfl

/-- Sinks are told without a change to the meters. -/
theorem meters_giveAll (output : List Output) : (s.giveAll k output).meters = s.meters := by
  have frame := congrArg State.meters (s.giveAll_frame k s.meters s.registries output)
  exact frame

/-- Sinks are told without a change to the registries. -/
theorem registries_giveAll (output : List Output) :
    (s.giveAll k output).registries = s.registries := by
  have frame := congrArg State.registries (s.giveAll_frame k s.meters s.registries output)
  exact frame

/-- Sinks are told the same whatever the meters are. -/
theorem giveAll_setMeters (meters : List Meter) (output : List Output) :
    ({ s with meters := meters } : State).giveAll k output =
      { s.giveAll k output with meters := meters } := by
  refine (s.giveAll_frame k meters s.registries output).trans ?_
  rw [← s.registries_giveAll k output]

/-- A delivery is received by the sink that it is for, and by no other. -/
theorem sink?_deliver (delivery : Delivery) (other : SinkRef) :
    (s.deliver k delivery).sink? other =
      (s.sink? other).map fun sink => if other = k then sink.receive delivery else sink := by
  rw [deliver]
  cases found : s.sink? k with
  | none =>
      by_cases same : other = k
      · rw [same, found]
        rfl
      · simp only [same, if_false, Option.map_id']
  | some sink =>
      have inside : k.index < s.sinks.length := (List.getElem?_eq_some_iff.mp found).1
      by_cases same : other = k
      · subst same
        rw [found, Option.map_some, if_pos rfl]
        exact List.getElem?_set_self inside
      · have apart : k.index ≠ other.index := fun equal => same (congrArg SinkRef.mk equal).symm
        simp only [same, if_false, Option.map_id']
        exact List.getElem?_set_ne apart

private theorem sink?_foldl_deliver (deliveries : List Delivery) (other : SinkRef) :
    (deliveries.foldl (fun s delivery => s.deliver k delivery) s).sink? other =
      (s.sink? other).map fun sink =>
        if other = k then deliveries.foldl Sink.receive sink else sink := by
  induction deliveries generalizing s with
  | nil =>
      simp only [List.foldl_nil, ite_self, Option.map_id']
  | cons delivery deliveries ih =>
      rw [List.foldl_cons, ih, sink?_deliver, Option.map_map]
      congr 1
      funext sink
      by_cases same : other = k <;> simp [same]

/-- **Only the sink that is meant receives what is given out**, all of it and in order. -/
theorem sink?_giveAll (output : List Output) (other : SinkRef) :
    (s.giveAll k output).sink? other =
      (s.sink? other).map fun sink =>
        if other = k then (output.flatMap Output.deliveries).foldl Sink.receive sink else sink := by
  induction output generalizing s with
  | nil => simp only [giveAll, List.foldl_nil, List.flatMap_nil, ite_self, Option.map_id']
  | cons out output ih =>
      rw [giveAll, List.foldl_cons, ← giveAll, ih, List.flatMap_cons]
      cases out with
      | passed number passage =>
          rw [give, sink?_foldl_deliver, Option.map_map]
          congr 1
          funext sink
          by_cases same : other = k <;> simp [same, Output.deliveries]
      | noted entry => rfl

variable {s k}

/-- An instrument stands if its meter does and has it. -/
theorem instrument?_eq_some {ref : InstrumentRef} {i : Instrument} :
    s.instrument? ref = some i ↔
      ∃ m, s.meter? ref.meter = some m ∧ m.instruments[ref.index]? = some i :=
  Option.bind_eq_some_iff

/-- A meter put for another stands in its place, and the others are as before. -/
theorem meter?_setMeter {r : MeterRef} {m : Meter} (found : s.meter? r = some m) (n : Meter)
    (other : MeterRef) : ({ s with meters := s.meters.set r.index n } : State).meter? other =
      if other = r then some n else s.meter? other := by
  by_cases same : other = r
  · subst same
    rw [if_pos rfl]
    exact List.getElem?_set_self (List.getElem?_eq_some_iff.mp found).1
  · rw [if_neg same]
    exact List.getElem?_set_ne fun equal => same (congrArg MeterRef.mk equal).symm

/-- A new meter stands at the end. -/
theorem meter?_of_concat {s' : State} {m : Meter} (grown : s'.meters = s.meters ++ [m])
    (other : MeterRef) :
    s'.meter? other = if other = ⟨s.meters.length⟩ then some m else s.meter? other := by
  rw [meter?, grown]
  split
  · next same =>
      rw [same]
      exact List.getElem?_concat_length
  · next different =>
      exact Place.getElem?_concat_of_ne fun same => different (congrArg MeterRef.mk same)

/-- To set a meter that stands already changes nothing. -/
theorem setMeter_self {r : MeterRef} {m : Meter} (found : s.meter? r = some m) :
    s.meters.set r.index m = s.meters :=
  Place.set_self found

/-- A request that comes to an outcome of the meter it is made of. -/
structure Granted {α : Type} (s : State) (r : MeterRef) (request : Meter → Outcome α) (a : α)
    (s' : State) (m : Meter) : Prop where
  meter : s.meter? r = some m
  answer : (request m).answer = .ok a
  /-- Only the one meter is changed. -/
  meters : ∀ other, s'.meter? other = if other = r then some (request m).meter else s.meter? other
  /-- Only its sink is told. -/
  sinks : ∀ k, s'.sink? k = (s.sink? k).map fun sink =>
    if k = m.sink then ((request m).output.flatMap Output.deliveries).foldl Sink.receive sink
    else sink

/-- A request that failed was not granted. -/
theorem Granted.elim {α : Type} {C : Prop} {r : MeterRef} {request : Meter → Outcome α} {a : α}
    {s' : State} {m : Meter} {e : Failure} (granted : Granted s r request a s' m)
    (failed : (request m).answer = .error e) : C := by
  have answered := granted.answer
  rw [failed] at answered
  cases answered

/-- A request that a meter answers was granted. -/
theorem atMeter_ok {α : Type} {r : MeterRef} {request : Meter → Outcome α} {a : α} {s' : State}
    (done : s.atMeter r request = (.ok a, s')) : ∃ m, Granted s r request a s' m := by
  rw [atMeter] at done
  cases found : s.meter? r with
  | none =>
      rw [found] at done
      cases done
  | some m =>
      rw [found] at done
      obtain ⟨answer, rfl⟩ := Prod.mk.inj done
      refine ⟨m, found, answer, fun other => ?_, fun k => ?_⟩
      · rw [meter?, meters_giveAll]
        exact meter?_setMeter found _ other
      · rw [sink?_giveAll]
        rfl

end State

end Metering
