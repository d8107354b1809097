import Metering.Proofs.Batch.Steps

/-! # Recorders of batches

A recorder holds the instruments of the accepted puts, in the order in which they came first, each
with the value put for it last. It is committed once: then its sink is told of the entries, in
order, between the brackets of one number, and from then on the recorder stays as it is, tells
nothing more and turns every request away (`Metering.recorder_runIn`).
-/

namespace Metering

namespace State

/-- **A spent recorder** turns every request away, whatever the value and the instrument, and
nothing is changed. -/
structure Spent (s : State) (b : BatchRef) (batch : Batch) : Prop where
  held : s.batch? b = some batch
  put : ∀ i value, (∃ x, s.instrument? i = some x) →
    s.perform (.put b i value) = (.error (.refused (.batchSpent batch.labels.text)), s)
  commit : s.perform (.commit b) = (.error (.refused (.batchSpent batch.labels.text)), s)

/-- **An open recorder** takes a value for an instrument of its meter if the instrument takes it,
and otherwise turns it away, with nothing changed. Committing it is done, and tells the sink of its
meter, and no other, of its entries between the brackets of the next number. -/
structure Open (s : State) (b : BatchRef) (m : Meter) (batch : Batch) : Prop where
  held : s.batch? b = some batch
  «foreign» : ∀ i x value, s.instrument? i = some x → i.meter ≠ b.meter →
    s.perform (.put b i value) = (.error (.refused (.foreignInstrument x.config.name m.name)), s)
  negative : ∀ i x value, s.instrument? i = some x → i.meter = b.meter →
    value.kind = x.config.number → ¬ x.config.Takes value →
    s.perform (.put b i value) = (.error (.refused (.negativeValue x.config.name value.text)), s)
  taken : ∀ i x value, s.instrument? i = some x → i.meter = b.meter → x.config.Takes value →
    (s.perform (.put b i value)).1 = .ok .done ∧
    (s.perform (.put b i value)).2.batch? b =
      some { batch with entries := assign i.index value batch.entries }
  commit : (s.perform (.commit b)).1 = .ok .done ∧
    (s.perform (.commit b)).2.batch? b = some { batch with spent := true } ∧
    ∀ k, (s.perform (.commit b)).2.sink? k = (s.sink? k).map fun sink =>
      if k = m.sink then (s.block b batch m.nextBatch).foldl Sink.receive sink else sink

variable {s : State} {b : BatchRef} {m : Meter} {batch : Batch}

/-- A recorder that is marked spent turns every request away. -/
theorem spent_of_held (held : s.batch? b = some batch) (spent : batch.spent = true) :
    s.Spent b batch := by
  obtain ⟨m, standing, inMeter⟩ := batch?_eq_some.mp held
  refine ⟨held, fun i value ⟨x, there⟩ => ?_, ?_⟩
  · rw [perform_put standing inMeter there, if_pos spent]
  · rw [perform_commit standing inMeter, if_pos spent]

/-- Putting a value into a batch assigns it to the instrument. -/
theorem putEntry_eq_assign (place : Nat) (value : Value) (entries : List (Nat × Value)) :
    putEntry place value entries = assign place value entries := by
  induction entries with
  | nil => rfl
  | cons entry rest ih =>
      obtain ⟨other, held⟩ := entry
      rw [putEntry, assign, ih]

/-- A recorder that is not marked spent is open. -/
theorem open_of_held (standing : s.meter? b.meter = some m)
    (inMeter : m.batches[b.index]? = some batch) (unspent : batch.spent = false) :
    s.Open b m batch := by
  have put {i : InstrumentRef} {x : Instrument} (there : s.instrument? i = some x) (value : Value) :=
    perform_put standing inMeter there value
  have commit := perform_commit standing inMeter
  simp only [unspent, Bool.false_eq_true, if_false] at put commit
  constructor
  case held => exact batch?_eq_some.mpr ⟨m, standing, inMeter⟩
  case «foreign» =>
    intro i x value there away
    rw [put there, if_neg away]
  case negative =>
    intro i x value there own kind refused
    rw [put there, if_pos own, x.accept_eq_negative kind refused]
  case taken =>
    intro i x value there own takes
    rw [put there, if_pos own, x.accept_eq_ok_iff.mpr takes]
    refine ⟨rfl, batch?_eq_some.mpr ⟨_, (meter?_setMeter standing _ _).trans (if_pos rfl), ?_⟩⟩
    rw [← putEntry_eq_assign]
    exact Place.getElem?_modify_eq_some.mpr ⟨batch, inMeter, (if_pos rfl).symm⟩
  case commit =>
    have after := meter?_setMeter standing { m.modifyBatch b.index (fun batch =>
      { batch with spent := true }) with nextBatch := m.nextBatch + 1 } b.meter
    rw [if_pos rfl] at after
    rw [commit]
    refine ⟨rfl, ?_, fun k => ?_⟩
    · rw [batch?, meter?, meters_giveAll, ← meter?, after]
      exact Place.getElem?_modify_eq_some.mpr ⟨batch, inMeter, (if_pos rfl).symm⟩
    · rw [sink?_giveAll, block, deliveries, filterMap_point?_members standing]
      refine congrArg ((s.sink? k).map ·) (funext fun sink => ?_)
      split
      · exact congrArg (List.foldl Sink.receive sink) (List.append_nil _)
      · rfl

end State

/-! ## Recorders at the end of a run -/

/-- What a recorder has told sinks at some moments. -/
def toldBy (b : BatchRef) (moments : List Moment) : List Delivery :=
  moments.flatMap (Moment.toldBy b)

/-- **A recorder at the end of a run** with some moments, of the meter and with the labels, the
entries and the mark as they stand. -/
structure Recorder (moments : List Moment) (s : State) (b : BatchRef) (m : Meter) (batch : Batch) :
    Prop where
  /-- It was opened with its labels. -/
  opened : moments.findSome? (fun q => q.call.opened? b) = some batch.labels
  /-- Its entries are the instruments of the accepted puts, in the order in which they came first,
  each with the value put for it last. -/
  entries : batch.entries.map (fun (place, value) => (⟨b.meter, place⟩, value)) =
    settled (moments.filterMap fun q => q.call.put? b)
  /-- They are of distinct instruments, and each is told as one point: of its instrument, under the
  labels of the batch as overridden by the instrument's constants, with the value. -/
  pointed : (batch.entries.map Prod.fst).Nodup ∧ ∃ points : List Point,
    (points.map some = batch.entries.map fun (place, value) =>
      (s.instrument? ⟨b.meter, place⟩).map fun i => i.pointWith batch.labels value) ∧
    ∀ number, s.block b batch number =
      .batchBegin number :: points.map (.point (some number)) ++ [.batchEnd number]
  /-- Building an instrument again gives the instrument, so that values for both are for one. -/
  rebuilt : ∀ i x setup, s.instrument? i = some x → setup.config = x.config →
    s.perform (.build i.meter setup) = (.ok (.instrument i), s)
  /-- Before it is committed it takes values, and it can be committed. -/
  unspent : batch.spent = false → s.Open b m batch ∧ toldBy b moments = []
  /-- Once committed it has told its entries between one pair of brackets. Whatever comes later, it
  stays as it is, turns every request away and tells nothing more. -/
  spent : batch.spent = true → (∃ number, toldBy b moments = s.block b batch number) ∧
    ∀ more, (s.runIn more).2.Spent b batch ∧ (∀ q ∈ s.moments more, q.state.Spent b batch) ∧
      toldBy b (s.moments more) = []

/-- What a recorder has told by the time that it is as it stands, if the number is that of its
brackets: nothing unless it is spent. -/
def State.toldOf (s : State) (b : BatchRef) (number : Nat) : List Delivery :=
  match s.batch? b with
  | none => []
  | some batch => if batch.spent then s.block b batch number else []

private theorem nodup_of_settled {r : MeterRef} {entries : List (Nat × Value)}
    {puts : List (InstrumentRef × Value)}
    (same : entries.map (fun (place, value) => ((⟨r, place⟩ : InstrumentRef), value)) =
      settled puts) : (entries.map Prod.fst).Nodup := by
  have distinct := nodup_settled puts
  rw [← same, List.map_map] at distinct
  refine List.Nodup.of_map (InstrumentRef.mk r) ?_
  rw [List.map_map]
  exact distinct

section Recorder

variable {sinks : List Sink} {moments : List Moment} {s : State} {b : BatchRef} {batch : Batch}
  (accounted : s.Accounted sinks (moments.map Moment.call)) (held : s.batch? b = some batch)

include accounted held

private theorem State.Accounted.entries_eq :
    batch.entries.map (fun (place, value) => (⟨b.meter, place⟩, value)) =
      settled (moments.filterMap fun q => q.call.put? b) := by
  obtain ⟨m, standing, inMeter⟩ := State.batch?_eq_some.mp held
  have account : (s.account b.meter).entries b.index =
      settled ((moments.map Moment.call).filterMap (Call.put? b)) := by
    rw [accounted.accounts]
    rfl
  rw [State.account, standing, List.filterMap_map] at account
  simpa only [Option.map_some, Option.getD_some, Meter.account, inMeter, Function.comp_def]
    using account

/-- The instruments of the entries stand. -/
theorem State.Accounted.exists_instrument {entry : Nat × Value} (member : entry ∈ batch.entries) :
    ∃ i, s.instrument? ⟨b.meter, entry.1⟩ = some i := by
  have counts : ((⟨b.meter, entry.1⟩ : InstrumentRef), entry.2) ∈
      settled (moments.filterMap fun q => q.call.put? b) := by
    rw [← accounted.entries_eq held]
    exact List.mem_map_of_mem member
  obtain ⟨q, isMoment, isPut⟩ := List.mem_filterMap.mp (mem_of_mem_settled counts)
  obtain ⟨i, there, _⟩ := accounted.taken q.call (List.mem_map_of_mem isMoment) _ _
    (State.taken?_of_put? isPut)
  exact ⟨i, there⟩

/-- Each entry has a point. -/
theorem State.Accounted.map_points : ((batch.members b.meter).filterMap s.point?).map some =
    batch.entries.map fun (place, value) =>
      (s.instrument? ⟨b.meter, place⟩).map fun i => i.pointWith batch.labels value := by
  have every : ∀ x ∈ batch.members b.meter, (s.point? x).isSome := by
    intro x member
    obtain ⟨entry, isEntry, rfl⟩ := List.mem_map.mp member
    obtain ⟨i, there⟩ := accounted.exists_instrument held isEntry
    rw [State.point?, there]
    rfl
  rw [Place.map_some_filterMap every, Batch.members, List.map_map]
  rfl

/-- What is told of a recorder is the same after a request. -/
theorem State.Accounted.block_perform (operation : Operation) (number : Nat) :
    (s.perform operation).2.block b batch number = s.block b batch number := by
  have frozen := (State.advance_of_perform accounted.sound operation).frozen
  rw [State.block, State.block, State.deliveries, State.deliveries]
  congr 3
  refine List.filterMap_congr fun x member => ?_
  obtain ⟨entry, isEntry, rfl⟩ := List.mem_map.mp member
  obtain ⟨i, there⟩ := accounted.exists_instrument held isEntry
  exact State.point?_frozen frozen there

end Recorder

section Told

variable {sinks : List Sink} {moments : List Moment} {s : State} {b : BatchRef}

/-- A recorder tells nothing but its entries when it is committed. -/
theorem exists_told_perform (accounted : s.Accounted sinks (moments.map Moment.call))
    (told : ∃ number, toldBy b moments = s.toldOf b number) (operation : Operation) :
    ∃ number, toldBy b (moments ++ [⟨s, operation⟩]) =
      (s.perform operation).2.toldOf b number := by
  obtain ⟨number, told⟩ := told
  have both : toldBy b (moments ++ [⟨s, operation⟩]) =
      s.toldOf b number ++ (⟨s, operation⟩ : Moment).toldBy b := by
    rw [toldBy, List.flatMap_append, List.flatMap_singleton, ← told]
    rfl
  rw [State.toldOf] at both
  rw [both]
  rcases (⟨s, operation⟩ : Moment).step b with
    ⟨after, silent⟩ | ⟨labels, missing, _, _, after, silent⟩ |
    ⟨batch, i, value, held, unspent, _, after, silent⟩ |
    ⟨batch, committed, held, unspent, _, after, block⟩
  · refine ⟨number, ?_⟩
    change (s.perform operation).2.batch? b = s.batch? b at after
    rw [silent, List.append_nil, State.toldOf, after]
    cases held : s.batch? b with
    | none => rfl
    | some batch =>
        simp only
        rw [accounted.block_perform held]
  · refine ⟨0, ?_⟩
    change s.batch? b = none at missing
    change (s.perform operation).2.batch? b = _ at after
    rw [silent, State.toldOf, after, missing]
    rfl
  · refine ⟨0, ?_⟩
    change s.batch? b = _ at held
    change (s.perform operation).2.batch? b = _ at after
    rw [silent, State.toldOf, after, held]
    simp only [unspent, Bool.false_eq_true, if_false, List.append_nil]
  · refine ⟨committed, ?_⟩
    change s.batch? b = _ at held
    change (s.perform operation).2.batch? b = _ at after
    rw [block, State.toldOf, after, held]
    simp only [unspent, Bool.false_eq_true, if_false, if_true, List.nil_append]
    exact (accounted.block_perform held operation committed).symm

/-- A recorder that is spent stays as it is. -/
theorem spent_perform {batch : Batch} (held : s.batch? b = some batch) (spent : batch.spent = true)
    (operation : Operation) : (s.perform operation).2.batch? b = some batch ∧
      (⟨s, operation⟩ : Moment).toldBy b = [] := by
  have once {other : Batch} (found : s.batch? b = some other) (unspent : other.spent = false) :
      False := by
    cases held.symm.trans found
    cases spent.symm.trans unspent
  rcases (⟨s, operation⟩ : Moment).step b with
    ⟨after, silent⟩ | ⟨_, missing, _⟩ | ⟨_, _, _, found, unspent, _⟩ | ⟨_, _, found, unspent, _⟩
  · exact ⟨after.trans held, silent⟩
  · cases held.symm.trans missing
  · exact (once found unspent).elim
  · exact (once found unspent).elim

/-- Whatever comes after a recorder is spent, it stays as it is and tells nothing. -/
theorem spent_runIn {batch : Batch} (held : s.batch? b = some batch) (spent : batch.spent = true)
    (more : List OrderedCommand) : (s.runIn more).2.Spent b batch ∧
      (∀ q ∈ s.moments more, q.state.Spent b batch) ∧ toldBy b (s.moments more) = [] := by
  obtain ⟨after, stays, silent⟩ := State.kept_of_commands
    (P := fun _ moments s => s.batch? b = some batch ∧
      (∀ q ∈ moments, q.state.Spent b batch) ∧ toldBy b moments = [])
    (fun _ _ _ _ kept => kept)
    (fun _ moments s operation ⟨held, stays, silent⟩ => by
      obtain ⟨after, told⟩ := spent_perform held spent operation
      refine ⟨after, fun q member => ?_, ?_⟩
      · rcases List.mem_append.mp member with before | now
        · exact stays q before
        · cases List.mem_singleton.mp now
          exact State.spent_of_held held spent
      · rw [toldBy, List.flatMap_append, List.flatMap_singleton, ← toldBy, silent, told]
        rfl)
    (fun _ _ _ _ kept => kept) [] [] more ⟨held, nofun, rfl⟩
  exact ⟨State.spent_of_held after spent, stays, silent⟩

end Told

/-! ## Building again -/

/-- Building an instrument again gives the instrument, and changes nothing. -/
theorem Meter.Orderly.build_again {m : Meter} (orderly : m.Orderly) {place : Nat} {x : Instrument}
    (placed : m.instruments[place]? = some x) {setup : InstrumentSetup}
    (same : setup.config = x.config) : m.build setup = ⟨.ok place, m, []⟩ := by
  have named : Name.fault? setup.config.name = none :=
    same ▸ orderly.named x (List.mem_of_getElem? placed)
  rcases m.build_cases setup with ⟨fault, faulty, _⟩ | ⟨_, registered⟩
  · cases named.symm.trans faulty
  · rcases m.register_cases setup.config with
      ⟨other, y, standing, taken, differs, _⟩ | ⟨other, y, standing, equal, outcome⟩ | ⟨free, _⟩
    · cases orderly.eq_place placed standing (by rw [taken, same])
      cases placed.symm.trans standing
      exact absurd same.symm differs
    · cases orderly.eq_place placed standing (by rw [equal, same])
      rw [registered, outcome]
    · exact absurd (by rw [same]) (free x (List.mem_of_getElem? placed))

/-- Building an instrument again is answered with the instrument. -/
theorem State.Orderly.perform_build_again {s : State} (orderly : s.Orderly) {i : InstrumentRef}
    {x : Instrument} (there : s.instrument? i = some x) {setup : InstrumentSetup}
    (same : setup.config = x.config) :
    s.perform (.build i.meter setup) = (.ok (.instrument i), s) := by
  obtain ⟨m, standing, placed⟩ := State.instrument?_eq_some.mp there
  rw [State.perform_of_home (r := i.meter) rfl, State.atMeter, standing]
  simp only [Meter.answer, (orderly.meters i.meter m standing).build_again placed same,
    Outcome.map, State.setMeter_self standing]
  rfl

/-! ## From opening to the end -/

/-- **A recorder is as it was opened and as values were put into it, and tells of them once**, at
the end of every run. -/
theorem recorder_runIn (commands : List OrderedCommand) {s : State}
    (ran : (State.empty.runIn commands).2 = s) {b : BatchRef} {m : Meter} {batch : Batch}
    (standing : s.meter? b.meter = some m) (inMeter : m.batches[b.index]? = some batch) :
    Recorder (State.empty.moments commands) s b m batch := by
  have orderly := State.orderly_runIn commands
  have accounted := State.accounted_runIn commands
  have told : ∃ number, toldBy b (State.empty.moments commands) =
      (State.empty.runIn commands).2.toldOf b number := by
    refine (State.kept_of_runIn (P := fun sinks moments s =>
      s.Accounted sinks (moments.map Moment.call) ∧
        ∃ number, toldBy b moments = s.toldOf b number) ?_ ?_ ?_ ?_ commands).2
    · exact fun _ _ _ sink ⟨accounted, told⟩ => ⟨accounted.createSink sink, told⟩
    · intro _ moments s operation ⟨accounted, told⟩
      refine ⟨?_, exists_told_perform accounted told operation⟩
      rw [List.map_append]
      exact accounted.perform operation
    · exact fun _ _ _ entry ⟨accounted, told⟩ => ⟨accounted.note entry, told⟩
    · exact ⟨State.accounted_empty, 0, rfl⟩
  rw [ran] at orderly accounted told
  have held : s.batch? b = some batch := State.batch?_eq_some.mpr ⟨m, standing, inMeter⟩
  have entries := accounted.entries_eq held
  obtain ⟨number, told⟩ := told
  rw [State.toldOf, held] at told
  simp only at told
  constructor
  case opened =>
    have account : (s.account b.meter).opened b.index =
        ((State.empty.moments commands).map Moment.call).findSome? (Call.opened? b) := by
      rw [accounted.accounts]
      rfl
    rw [State.account, standing, List.findSome?_map] at account
    simpa only [Option.map_some, Option.getD_some, Meter.account, inMeter, Function.comp_def]
      using account.symm
  case entries => exact entries
  case pointed => exact ⟨nodup_of_settled entries, _, accounted.map_points held, fun _ => rfl⟩
  case rebuilt => exact fun i x setup there => orderly.perform_build_again there
  case unspent =>
    intro unspent
    refine ⟨State.open_of_held standing inMeter unspent, ?_⟩
    rw [told, unspent, if_neg Bool.false_ne_true]
  case spent =>
    intro spent
    refine ⟨⟨number, ?_⟩, spent_runIn held spent⟩
    rw [told, if_pos spent]

/-- Values are put for two instruments of a meter, one of them twice and by way of building it
again; a negative value is refused, and so is one for an instrument of another meter of the same
name. The recorder is committed, and asked for more. -/
def remembered : List OrderedCommand :=
  [.createSink (.recording []), .perform (.createMeter ⟨"m", none, ⟨0⟩, 1⟩),
    .perform (.createMeter ⟨"m", none, ⟨0⟩, 1⟩),
    .perform (.build ⟨0⟩ ⟨"x", .counter, .long, []⟩),
    .perform (.build ⟨0⟩ ⟨"y", .measure, .long, [.absolute true]⟩),
    .perform (.build ⟨1⟩ ⟨"x", .counter, .long, []⟩), .perform (.openBatch ⟨0⟩ .empty),
    .perform (.put ⟨⟨0⟩, 0⟩ ⟨⟨0⟩, 0⟩ (.long 1)), .perform (.put ⟨⟨0⟩, 0⟩ ⟨⟨0⟩, 1⟩ (.long (-1))),
    .perform (.put ⟨⟨0⟩, 0⟩ ⟨⟨1⟩, 0⟩ (.long 3)), .perform (.put ⟨⟨0⟩, 0⟩ ⟨⟨0⟩, 1⟩ (.long 2)),
    .perform (.build ⟨0⟩ ⟨"x", .counter, .long, []⟩),
    .perform (.put ⟨⟨0⟩, 0⟩ ⟨⟨0⟩, 0⟩ (.long 5)), .perform (.commit ⟨⟨0⟩, 0⟩),
    .perform (.put ⟨⟨0⟩, 0⟩ ⟨⟨0⟩, 0⟩ (.long 6)), .perform (.commit ⟨⟨0⟩, 0⟩)]

/-- The recorder holds the last value for each of the two instruments, and has told them once. -/
theorem recorder_remembered :
    (State.empty.runIn remembered).2.batch? ⟨⟨0⟩, 0⟩ =
        some ⟨.empty, [(0, .long 5), (1, .long 2)], true⟩ ∧
      toldBy ⟨⟨0⟩, 0⟩ (State.empty.moments remembered) =
        [.batchBegin 0, .point (some 0) ⟨⟨"m", 0, "x", .counter, .long, none⟩, .empty, .long 5⟩,
          .point (some 0) ⟨⟨"m", 1, "y", .measure, .long, none⟩, .empty, .long 2⟩,
          .batchEnd 0] ∧
      ∃ m, Recorder (State.empty.moments remembered) (State.empty.runIn remembered).2 ⟨⟨0⟩, 0⟩ m
        ⟨.empty, [(0, .long 5), (1, .long 2)], true⟩ := by
  have held : (State.empty.runIn remembered).2.batch? ⟨⟨0⟩, 0⟩ =
      some ⟨.empty, [(0, .long 5), (1, .long 2)], true⟩ := by decide +kernel
  obtain ⟨m, standing, inMeter⟩ := State.batch?_eq_some.mp held
  exact ⟨held, by decide +kernel, m, recorder_runIn remembered rfl standing inMeter⟩

end Metering
