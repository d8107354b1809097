import Metering.Proofs.Place
import Metering.Proofs.State.Giving
import Metering.State.Order

/-! # States but for one sink

A stage is a state without one of its sinks, with the tape of what that sink was told and of all
other entries in the journal. Whatever is done in a state is done in the same way with any sink in
that place, and leads to one stage (`Metering.Stage.uniform_runIn`).
-/

namespace Metering

/-- Everything in a state but one sink, and the tape. -/
structure Stage where
  sinks : List Sink
  place : Nat
  inside : place < sinks.length
  meters : List Meter
  registries : List Registry
  tape : List (Entry ⊕ Delivery)

namespace Stage

/-- What the sink was told. -/
def stream (stage : Stage) : List Delivery :=
  stage.tape.filterMap Sum.getRight?

/-- The journal when the sink writes to it as given. -/
def journal (stage : Stage) (reports : Delivery → List Entry) : List Entry :=
  stage.tape.flatMap (Sum.elim (fun entry => [entry]) reports)

/-- The state in which a sink was in place from the start. -/
def fill (stage : Stage) (sink : Sink) : State where
  sinks := stage.sinks.set stage.place (stage.stream.foldl Sink.receive sink)
  meters := stage.meters
  registries := stage.registries
  journal := stage.journal sink.reports

/-- The stage after more entries in the journal that do not tell of the sink. -/
def write (stage : Stage) (entries : List Entry) : Stage :=
  { stage with tape := stage.tape ++ entries.map Sum.inl }

/-- The stage after the sink was told something. -/
def tell (stage : Stage) (delivery : Delivery) : Stage :=
  { stage with tape := stage.tape ++ [.inr delivery] }

variable (stage : Stage)

/-- The sink filled in has received the stream. -/
theorem sink?_fill (sink : Sink) : (stage.fill sink).sink? ⟨stage.place⟩ =
    some (stage.stream.foldl Sink.receive sink) :=
  List.getElem?_set_self stage.inside

private theorem fill_write (entries : List Entry) (sink : Sink) :
    (stage.write entries).fill sink =
      { stage.fill sink with journal := (stage.fill sink).journal ++ entries } := by
  have stream : (stage.write entries).stream = stage.stream := by
    rw [write, Stage.stream, List.filterMap_append, List.filterMap_map]
    exact (congrArg _ (List.filterMap_none entries)).trans (List.append_nil _)
  have journal : (stage.write entries).journal sink.reports =
      stage.journal sink.reports ++ entries := by
    rw [write, Stage.journal, List.flatMap_append, List.flatMap_map]
    exact congrArg _ (List.flatMap_singleton' entries)
  rw [fill, stream, journal]
  rfl

private theorem fill_tell (delivery : Delivery) (sink : Sink) :
    (stage.tell delivery).fill sink = (stage.fill sink).deliver ⟨stage.place⟩ delivery := by
  have stream : (stage.tell delivery).stream = stage.stream ++ [delivery] :=
    List.filterMap_append ..
  have journal : (stage.tell delivery).journal sink.reports =
      stage.journal sink.reports ++ sink.reports delivery := by
    rw [tell, Stage.journal, List.flatMap_append, List.flatMap_singleton]
    rfl
  rw [fill, stream, journal, List.foldl_append, State.deliver, sink?_fill]
  simp only [fill, List.set_set, reports_foldl_receive]
  rfl

/-- The stage before a sink is made. -/
def ofState (s : State) : Stage where
  sinks := s.sinks ++ [.silent]
  place := s.sinks.length
  inside := by rw [List.length_append]; exact Nat.lt_succ_self _
  meters := s.meters
  registries := s.registries
  tape := s.journal.map Sum.inl

/-- To fill in a stage that has just been set up is to create the sink. -/
theorem fill_ofState (s : State) (sink : Sink) :
    (ofState s).fill sink = (s.createSink sink).2 := by
  have stream : (ofState s).stream = [] := by
    rw [Stage.stream, ofState, List.filterMap_map]
    exact List.filterMap_none s.journal
  have journal : (ofState s).journal sink.reports = s.journal := by
    rw [Stage.journal, ofState, List.flatMap_map]
    exact List.flatMap_singleton' s.journal
  have sinks : (s.sinks ++ [Sink.silent]).set s.sinks.length sink = s.sinks ++ [sink] := by
    rw [List.set_append_right _ _ (Nat.le_refl _), Nat.sub_self]
    rfl
  rw [fill, stream, journal]
  exact congrArg (State.mk · s.meters s.registries s.journal) sinks

/-- The other sinks are as they are on the stage. -/
theorem sink?_fill_ne {other : SinkRef} (different : other ≠ ⟨stage.place⟩) (sink : Sink) :
    (stage.fill sink).sink? other = stage.sinks[other.index]? :=
  List.getElem?_set_ne fun same => different (congrArg SinkRef.mk same).symm

/-- With a quiet sink the journal has the entries of the meters alone. -/
theorem journal_quiet : stage.journal (fun _ => []) = stage.tape.filterMap Sum.getLeft? := by
  rw [journal, List.filterMap_eq_flatMap_toList]
  refine List.flatMap_congr fun told _ => ?_
  cases told <;> rfl

/-- With a sink that reports, the journal tells all of the tape. -/
theorem journal_reporting (level : Level) :
    stage.journal (fun delivery => [delivery.report level]) =
      stage.tape.map (Sum.elim id (Delivery.report level)) := by
  rw [journal, List.map_eq_flatMap]
  refine List.flatMap_congr fun told _ => ?_
  cases told <;> rfl

/-! ## What is done alike -/

/-- What is done alike whatever the sink is. -/
def Uniform {α : Type} (f : State → α × State) : Prop :=
  ∀ stage : Stage, ∃ (a : α) (stage' : Stage), stage'.place = stage.place ∧
    ∀ sink, f (stage.fill sink) = (a, stage'.fill sink)

section Uniform

variable {α β : Type} {f : State → α × State} {g : α → State → β × State}

/-- To answer and do nothing is uniform. -/
theorem Uniform.pure (a : α) : Uniform fun s => (a, s) :=
  fun stage => ⟨a, stage, rfl, fun _ => rfl⟩

/-- Two uniform acts, one after the other, are uniform. -/
theorem Uniform.bind (first : Uniform f) (rest : ∀ a, Uniform (g a)) :
    Uniform fun s => g (f s).1 (f s).2 := by
  intro stage
  obtain ⟨a, middle, place, done⟩ := first stage
  obtain ⟨b, last, place', done'⟩ := rest a middle
  refine ⟨b, last, place'.trans place, fun sink => ?_⟩
  change g (f (stage.fill sink)).1 (f (stage.fill sink)).2 = _
  rw [done sink]
  exact done' sink

/-- What begins by reading something of the state that does not depend on the sink. -/
theorem Uniform.read (look : State → β)
    (same : ∀ (stage : Stage) sink sink', look (stage.fill sink) = look (stage.fill sink'))
    (rest : ∀ b, ∃ f', Uniform f' ∧ ∀ s, look s = b → f s = f' s) : Uniform f := by
  intro stage
  obtain ⟨f', uniform, equal⟩ := rest (look (stage.fill .silent))
  obtain ⟨a, last, place, done⟩ := uniform stage
  refine ⟨a, last, place, fun sink => ?_⟩
  rw [equal _ (same stage sink .silent)]
  exact done sink

private theorem Uniform.foldl
    {step : State → β → State} (each : ∀ b, Uniform fun s => ((), step s b))
    (l : List β) : Uniform fun s => ((), l.foldl step s) := by
  induction l with
  | nil => exact .pure ()
  | cons b rest ih => exact (each b).bind fun _ => ih

end Uniform

/-! ## Giving out -/

private theorem uniform_note (entry : Entry) : Uniform fun s => ((), s.note entry) := by
  refine fun stage => ⟨(), stage.write [entry], rfl, fun sink => ?_⟩
  rw [fill_write]
  rfl

private theorem uniform_deliver (k : SinkRef) (delivery : Delivery) :
    Uniform fun s => ((), s.deliver k delivery) := by
  intro stage
  by_cases own : k.index = stage.place
  · refine ⟨(), stage.tell delivery, rfl, fun sink => ?_⟩
    obtain ⟨_⟩ := k
    cases own
    rw [fill_tell]
  · have same (sink : Sink) : (stage.fill sink).sink? k = stage.sinks[k.index]? :=
      List.getElem?_set_ne (Ne.symm own)
    cases found : stage.sinks[k.index]? with
    | none =>
        refine ⟨(), stage, rfl, fun sink => ?_⟩
        simp only [State.deliver, same, found]
    | some other =>
        let changed : Stage :=
          { stage with
            sinks := stage.sinks.set k.index (other.receive delivery)
            inside := by rw [List.length_set]; exact stage.inside }
        refine ⟨(), changed.write (other.reports delivery), rfl, fun sink => ?_⟩
        simp only [State.deliver, same, found, fill_write]
        exact congrArg (fun sinks => ((), State.mk sinks stage.meters stage.registries
          (stage.journal sink.reports ++ other.reports delivery))) (List.set_comm _ _ (Ne.symm own))

private theorem uniform_giveAll (k : SinkRef) (output : List Output) :
    Uniform fun s => ((), s.giveAll k output) := by
  refine Uniform.foldl (fun out => ?_) output
  cases out with
  | passed number passage => exact Uniform.foldl (uniform_deliver k) (passage.deliveries number)
  | noted entry => exact uniform_note entry

/-! ## Requests -/

variable {α : Type}

/-- What is asked of a meter is uniform. -/
theorem uniform_atMeter (r : MeterRef) (request : Meter → Outcome α) :
    Uniform (·.atMeter r request) := by
  intro stage
  cases found : stage.meters[r.index]? with
  | none =>
      refine ⟨.error .absent, stage, rfl, fun sink => ?_⟩
      simp only [State.atMeter, State.meter?, fill, found]
  | some m =>
      obtain ⟨_, last, place, given⟩ := uniform_giveAll m.sink (request m).output
        { stage with meters := stage.meters.set r.index (request m).meter }
      refine ⟨(request m).answer, last, place, fun sink => ?_⟩
      simp only [State.atMeter, State.meter?, fill, found]
      exact congrArg (Prod.mk _) (congrArg Prod.snd (given sink))

private theorem uniform_reply {f : α → Reply} {act : State → Except Failure α × State}
    (uniform : Uniform act) : Uniform fun s => reply f (act s) :=
  uniform.bind fun answer => .pure (answer.map f)

/-- Only whether a sink is there matters to what is made for it. -/
theorem uniform_withSink {k : SinkRef} {absent present : State → α × State}
    (uniform : Uniform absent) (uniform' : Uniform present) :
    Uniform fun s => match s.sink? k with
      | none => absent s
      | some _ => present s := by
  intro stage
  by_cases there : k.index < stage.sinks.length
  · obtain ⟨a, last, place, done⟩ := uniform' stage
    refine ⟨a, last, place, fun sink => ?_⟩
    have inside : k.index < (stage.fill sink).sinks.length := by
      rwa [fill, List.length_set]
    simp only [State.sink?, List.getElem?_eq_getElem inside]
    exact done sink
  · obtain ⟨a, last, place, done⟩ := uniform stage
    refine ⟨a, last, place, fun sink => ?_⟩
    have outside : (stage.fill sink).sinks.length ≤ k.index := by
      rw [fill, List.length_set]
      exact Nat.le_of_not_lt there
    simp only [State.sink?, List.getElem?_eq_none outside]
    exact done sink

private theorem uniform_createMeter (setup : MeterSetup) : Uniform (·.createMeter setup) := by
  refine uniform_withSink (.pure _) fun stage => ?_
  let made : Stage := { stage with meters := stage.meters ++ [.ofSetup setup] }
  refine ⟨.ok ⟨stage.meters.length⟩,
    made.write [.meterCreated setup.name (Stripe.count setup.stripes)], rfl, fun sink => ?_⟩
  rw [fill_write]
  rfl

private theorem uniform_createRegistry (k : SinkRef) : Uniform (·.createRegistry k) :=
  uniform_withSink (.pure _) fun stage => ⟨.ok ⟨stage.registries.length⟩,
    { stage with registries := stage.registries ++ [⟨k, []⟩] }, rfl, fun _ => rfl⟩

private theorem uniform_getMeter (k : RegistryRef) (name : String) :
    Uniform (·.getMeter k name) := by
  intro stage
  have unread (sink : Sink) : (stage.fill sink).registryAt? k = stage.registries[k.index]? := rfl
  cases standing : stage.registries[k.index]? with
  | none =>
      refine ⟨.error .absent, stage, rfl, fun sink => ?_⟩
      simp only [State.getMeter, unread, standing]
  | some registry =>
      cases known : registry.meters.lookup name with
      | some m =>
          refine ⟨.ok m, stage, rfl, fun sink => ?_⟩
          simp only [State.getMeter, unread, standing, known]
      | none =>
          obtain ⟨answer, made, place, done⟩ :=
            uniform_createMeter ⟨name, none, registry.sink, Stripe.default⟩ stage
          cases answer with
          | error e =>
              refine ⟨.error e, made, place, fun sink => ?_⟩
              simp only [State.getMeter, unread, standing, known, done]
          | ok m =>
              refine ⟨.ok m, { made with
                registries := made.registries.modify k.index fun registry =>
                  { registry with meters := registry.meters ++ [(name, m)] } }, place,
                fun sink => ?_⟩
              simp only [State.getMeter, unread, standing, known, done]
              rfl

private theorem uniform_put (b : BatchRef) (i : InstrumentRef) (value : Value) :
    Uniform (·.put b i value) := by
  refine Uniform.read (·.instrument? i) (fun _ _ _ => rfl) ?_
  rintro (_ | instrument)
  · exact ⟨_, .pure (Except.error .absent), fun s found => by simp only [State.put, found]⟩
  · let offer : Offer := if i.meter = b.meter then .own i.index else .foreign instrument.config.name
    refine ⟨_, uniform_atMeter b.meter (·.put b.index offer value), fun s found => ?_⟩
    simp only [State.put, found]
    rfl

private theorem uniform_unbind (i : InstrumentRef) (h : Handle) : Uniform (·.unbind i h) := by
  refine Uniform.read (fun s => (s.instrument? i, s.instrument? h.instrument))
    (fun _ _ _ => rfl) ?_
  rintro ⟨_ | instrument, owner⟩
  · refine ⟨_, .pure (Except.error .absent), fun s found => ?_⟩
    simp only [State.unbind, (Prod.mk.inj found).1]
  · cases owner with
    | none =>
        refine ⟨_, .pure (Except.error .absent), fun s found => ?_⟩
        simp only [State.unbind, (Prod.mk.inj found).1, (Prod.mk.inj found).2]
    | some owner =>
        by_cases own : h.instrument = i
        · refine ⟨_, uniform_atMeter i.meter (·.unbind i.index h.identity), fun s found => ?_⟩
          simp only [State.unbind, (Prod.mk.inj found).1, (Prod.mk.inj found).2, if_pos own]
        · refine ⟨_, .pure (Except.error (.refused (.foreignInstrument owner.config.name
            instrument.config.name))), fun s found => ?_⟩
          simp only [State.unbind, (Prod.mk.inj found).1, (Prod.mk.inj found).2, if_neg own]

/-- A request is uniform. -/
theorem uniform_perform (operation : Operation) : Uniform (·.perform operation) := by
  cases operation with
  | createMeter setup => exact uniform_reply (uniform_createMeter setup)
  | createRegistry k => exact uniform_reply (uniform_createRegistry k)
  | getMeter k name => exact uniform_reply (uniform_getMeter k name)
  | put b i value => exact uniform_reply (uniform_put b i value)
  | unbind i h => exact uniform_reply (uniform_unbind i h)
  | build | record | bind | recordBound | openBatch | commit | setCallback =>
      exact uniform_reply (uniform_atMeter _ _)

/-! ## Callbacks and runs -/

/-- An action of a callback is uniform. -/
theorem uniform_act (observer : InstrumentRef) (action : Action) :
    Uniform (·.act observer action) := by
  cases action with
  | observe value labels => exact uniform_perform (.record observer value labels)
  | perform operation => exact uniform_perform operation
  | replace program => exact uniform_perform (.setCallback observer program)
  | describe =>
      refine Uniform.read (·.instrument? observer) (fun _ _ _ => rfl) ?_
      rintro (_ | i)
      · exact ⟨_, .pure (Except.error .absent), fun s found => by simp only [State.act, found]⟩
      · exact ⟨_, .pure (Except.ok (.text i.resultText)),
          fun s found => by simp only [State.act, found]⟩
  | spawn m setup program =>
      intro stage
      have build : Uniform (·.build m setup) := uniform_atMeter _ _
      obtain ⟨answer, built, place, done⟩ := build stage
      cases answer with
      | error e =>
          refine ⟨.error e, built, place, fun sink => ?_⟩
          simp only [State.act, done]
      | ok i =>
          have set : Uniform fun s => reply (fun _ => .instrument i) (s.setCallback i program) :=
            uniform_reply (uniform_atMeter _ _)
          obtain ⟨answer, last, place', done'⟩ := set built
          refine ⟨answer, last, place'.trans place, fun sink => ?_⟩
          simp only [State.act, done, done']

/-- A program is uniform. -/
theorem uniform_runProgram (observer : InstrumentRef) (program : List Action) :
    Uniform (·.runProgram observer program) := by
  induction program with
  | nil => exact .pure []
  | cons action rest ih =>
      exact (uniform_act observer action).bind fun answer => ih.bind fun answers =>
        .pure (answer :: answers)

private theorem uniform_runCallbacks (callbacks : List (InstrumentRef × List Action)) :
    Uniform (·.runCallbacks callbacks) := by
  induction callbacks with
  | nil => exact .pure []
  | cons callback rest ih =>
      obtain ⟨observer, program⟩ := callback
      exact (uniform_runProgram observer program).bind fun answers => ih.bind fun later =>
        .pure (answers.map (observer, ·) ++ later)

/-- A collection is uniform. -/
theorem uniform_collectInOrder (m : MeterRef) (callbacks : List (InstrumentRef × List Action)) :
    Uniform (·.collectInOrder m callbacks) := by
  refine Uniform.read (·.meter? m) (fun _ _ _ => rfl) ?_
  rintro (_ | meter)
  · exact ⟨_, .pure (Except.error .absent),
      fun s found => by simp only [State.collectInOrder, found]⟩
  · refine ⟨_, (uniform_runCallbacks callbacks).bind fun calls =>
      (uniform_note (.observersCollected meter.name callbacks.length)).bind fun _ =>
        .pure (Except.ok ⟨callbacks.length, calls⟩), fun s found => ?_⟩
    simp only [State.collectInOrder, found]

/-- To create another sink is uniform. -/
theorem uniform_createSink (added : Sink) : Uniform (·.createSink added) := by
  intro stage
  have inside : stage.place < (stage.sinks ++ [added]).length := by
    rw [List.length_append]
    exact Nat.lt_add_right 1 stage.inside
  refine ⟨⟨stage.sinks.length⟩, { stage with sinks := stage.sinks ++ [added], inside := inside },
    rfl, fun sink => ?_⟩
  simp only [State.createSink, fill, List.length_set, List.set_append_left _ _ stage.inside]
  rfl

/-- A command is uniform. -/
theorem uniform_executeIn (command : OrderedCommand) : Uniform (·.executeIn command) := by
  cases command with
  | createSink sink =>
      exact (uniform_createSink sink).bind fun k => .pure (Answer.replied (.ok (.sink k)))
  | perform operation =>
      exact (uniform_perform operation).bind fun answer => .pure (Answer.replied answer)
  | collect m order =>
      refine Uniform.read (·.ordered m order) (fun _ _ _ => rfl) fun callbacks =>
        ⟨_, (uniform_collectInOrder m callbacks).bind fun answer =>
          .pure (Answer.collected answer), fun s found => ?_⟩
      simp only [State.executeIn, found]

/-- **A run goes the same way whatever the sink is.** -/
theorem uniform_runIn (commands : List OrderedCommand) : Uniform (·.runIn commands) := by
  induction commands with
  | nil => exact .pure []
  | cons command rest ih =>
      exact (uniform_executeIn command).bind fun answer => ih.bind fun answers =>
        .pure (answer :: answers)

end Stage

end Metering
