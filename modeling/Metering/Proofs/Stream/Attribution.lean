import Mathlib.Algebra.BigOperators.Group.List.Basic
import Mathlib.Algebra.Ring.Nat
import Metering.Proofs.State.Orderly
import Metering.Proofs.Stream.Faithful

/-! # Batches on a shared sink

A meter numbers its batches from zero, so meters that share a sink use the same numbers. When they
are the meters of one registry, the sink is told one pair of brackets of a number by each meter that
has committed so many batches, and the entries under the number that name one meter are those of the
one batch that the meter committed under it (`Metering.attributed_of_history`). The number alone
tells a batch only where no other meter has used it.
-/

namespace Metering

variable {sinks : List Sink} {calls : List Call} {s : State} {registry : Registry}

/-! ## The batches of a meter -/

namespace Emission

/-- The number and the members of a batch, if it is one of a meter. -/
def batchOf? (r : MeterRef) : Emission → Option (Nat × List Measurement)
  | .single _ => none
  | .batch owner number members => if owner = r then some (number, members) else none

/-- The number of a batch. -/
def number? : Emission → Option Nat
  | .single _ => none
  | .batch _ number _ => some number

private theorem batchOf?_fst (e : Emission) (r : MeterRef) :
    (e.batchOf? r).map Prod.fst = if e.meter = r then e.number? else none := by
  cases e with
  | single x => exact (ite_self none).symm
  | batch owner number members =>
      change (if owner = r then some (number, members) else none).map Prod.fst =
        if owner = r then some number else none
      split <;> rfl

end Emission

/-- The batches that a meter has committed, in order. -/
def batchesOf (calls : List Call) (r : MeterRef) : List (Nat × List Measurement) :=
  (emissions calls).filterMap (Emission.batchOf? r)

private theorem mem_emissions {earlier later : List Call} {c : Call} {e : Emission}
    (emits : c.emission? (accountOf earlier) = some e) :
    e ∈ emissions (earlier ++ c :: later) := by
  induction later using List.reverseRecOn with
  | nil =>
      rw [emissions_concat, emits]
      exact List.mem_append_right _ (List.mem_singleton_self e)
  | append_singleton later last ih =>
      rw [← List.cons_append, ← List.append_assoc, emissions_concat]
      exact List.mem_append_left _ ih

/-- A batch is committed under the number of those that its meter committed before. -/
theorem Call.batchOf?_fst {accounts : MeterRef → Account} {c : Call}
    (emits : (c.emission? accounts).isSome = c.isRecorded) (r : MeterRef) :
    ((c.emission? accounts).bind (Emission.batchOf? r)).map Prod.fst =
      if c.commits r then some (accounts r).committed else none := by
  cases emission : c.emission? accounts with
  | none =>
      have unrecorded : c.isRecorded = false := by rw [← emits, emission, Option.isSome_none]
      have idle : c.commits r = false := by
        obtain ⟨request, answer⟩ := c
        cases answer with
        | error e => cases request <;> rfl
        | ok a =>
            cases request with
            | commit b => cases unrecorded
            | _ => rfl
      rw [idle]
      rfl
  | some e =>
      rcases c.emission?_cases emission with
        ⟨i, value, labels, a, rfl, rfl⟩ | ⟨h, value, labels, a, rfl, _, rfl⟩ |
        ⟨b, labels, a, rfl, _, rfl⟩
      · rfl
      · rfl
      · rw [Option.bind_some, Emission.batchOf?_fst]
        change (if b.meter = r then some (accounts b.meter).committed else none) =
          if decide (b.meter = r) = true then some (accounts r).committed else none
        by_cases same : b.meter = r
        · subst same
          rw [if_pos rfl, if_pos (decide_eq_true rfl)]
        · rw [if_neg same, if_neg (of_decide_eq_true · |> same)]

/-- The batches of a meter are numbered from zero, in the order of their commits. -/
theorem State.Emitting.numbers_batchesOf (emitting : State.Emitting calls) (r : MeterRef) :
    (batchesOf calls r).map Prod.fst = List.range (calls.countP (Call.commits r)) := by
  induction calls using List.reverseRecOn with
  | nil => rfl
  | append_singleton calls c ih =>
      have before : State.Emitting calls := fun earlier c' later split =>
        emitting earlier c' (later ++ [c]) (by rw [split, List.append_assoc, List.cons_append])
      have number := c.batchOf?_fst (emitting calls c [] rfl) r
      have last : (c.emission? (accountOf calls)).toList.filterMap (Emission.batchOf? r) =
          ((c.emission? (accountOf calls)).bind (Emission.batchOf? r)).toList := by
        cases c.emission? (accountOf calls) with
        | none => rfl
        | some e => cases told : e.batchOf? r <;> simp [told]
      rw [batchesOf, emissions_concat, List.filterMap_append, last, List.map_append, ← batchesOf,
        ih before, ← Option.toList_map, number, List.countP_append, List.countP_singleton]
      split
      · exact List.range_succ.symm
      · exact List.append_nil _

/-- No two batches of a meter have one number. -/
theorem State.Emitting.nodup_batchesOf (emitting : State.Emitting calls) (r : MeterRef) :
    ((batchesOf calls r).map Prod.fst).Nodup := by
  rw [emitting.numbers_batchesOf]
  exact List.nodup_range

private theorem filter_fst_eq_singleton {β : Type} {l : List (Nat × β)} {number : Nat} {b : β}
    (distinct : (l.map Prod.fst).Nodup) (member : (number, b) ∈ l) :
    (l.filter fun entry => entry.1 = number) = [(number, b)] := by
  induction l with
  | nil => cases member
  | cons entry rest ih =>
      obtain ⟨apart, distinct⟩ := List.nodup_cons.mp distinct
      rcases List.mem_cons.mp member with rfl | later
      · rw [List.filter_cons_of_pos (by simp)]
        congr 1
        refine List.filter_eq_nil_iff.mpr fun other isRest same => apart ?_
        have isKey := List.mem_map_of_mem (f := Prod.fst) isRest
        rwa [show other.1 = number from of_decide_eq_true same] at isKey
      · have different : entry.1 ≠ number := fun same =>
          apart (same ▸ List.mem_map_of_mem (f := Prod.fst) later)
        rw [List.filter_cons_of_neg (by simpa using different)]
        exact ih distinct later

/-! ## Meters that share a sink -/

/-- The meters of a registry, and no others, report to its sink. -/
structure Registry.Serves (registry : Registry) (s : State) : Prop where
  distinct : (registry.meters.map Prod.fst).Nodup
  listed : ∀ (name : String) (r : MeterRef), (name, r) ∈ registry.meters →
    ∃ m, s.meter? r = some m ∧ m.name = name ∧ m.sink = registry.sink
  only : ∀ (r : MeterRef) (m : Meter), s.meter? r = some m → m.sink = registry.sink →
    ∃ name, (name, r) ∈ registry.meters

namespace Registry.Serves

variable (serves : registry.Serves s)

include serves

/-- The meters of a registry are those that report to its sink. -/
theorem mem_iff {r : MeterRef} : r ∈ registry.meters.map Prod.snd ↔
    (s.meter? r).map Meter.sink = some registry.sink := by
  constructor
  · intro member
    obtain ⟨⟨name, _⟩, isListed, rfl⟩ := List.mem_map.mp member
    obtain ⟨m, found, _, reports⟩ := serves.listed name _ isListed
    rw [found, Option.map_some, reports]
  · intro reports
    obtain ⟨m, found, isSink⟩ := Option.map_eq_some_iff.mp reports
    obtain ⟨name, isListed⟩ := serves.only r m found isSink
    exact List.mem_map.mpr ⟨_, isListed, rfl⟩

/-- The name of a meter tells it among those of the registry. -/
theorem name_eq_iff {name : String} {r other : MeterRef} {m : Meter}
    (isListed : (name, r) ∈ registry.meters) (found : s.meter? other = some m)
    (reports : m.sink = registry.sink) : m.name = name ↔ other = r := by
  constructor
  · rintro rfl
    obtain ⟨name', isListed'⟩ := serves.only other m found reports
    obtain ⟨m', found', named, _⟩ := serves.listed name' other isListed'
    cases found.symm.trans found'
    exact congrArg Prod.snd
      (List.inj_on_of_nodup_map serves.distinct isListed' isListed named.symm)
  · rintro rfl
    obtain ⟨m', found', named, _⟩ := serves.listed name other isListed
    cases found.symm.trans found'
    exact named

private theorem count_meters (r : MeterRef) : (registry.meters.map Prod.snd).count r =
    if (s.meter? r).map Meter.sink = some registry.sink then 1 else 0 := by
  have nodup : (registry.meters.map Prod.snd).Nodup := by
    refine List.pairwise_map.mpr ((List.pairwise_map.mp serves.distinct).imp_of_mem ?_)
    intro a b isA isB differ same
    obtain ⟨m, found, named, _⟩ := serves.listed a.1 a.2 isA
    obtain ⟨m', found', named', _⟩ := serves.listed b.1 b.2 isB
    rw [same] at found
    cases found.symm.trans found'
    exact differ (named.symm.trans named')
  rw [nodup.count]
  simp only [serves.mem_iff]

end Registry.Serves

/-! ## Brackets -/

private theorem sum_map_ite_one {α : Type} (p : α → Bool) (l : List α) :
    (l.map fun a => if p a then 1 else 0).sum = l.countP p := by
  induction l with
  | nil => rfl
  | cons a l ih => rw [List.map_cons, List.sum_cons, ih, List.countP_cons, Nat.add_comm]

/-- The batches of a number among what is emitted, counted meter by meter. -/
theorem sum_batches (refs : List MeterRef) (number : Nat) (l : List Emission) :
    (l.map fun e => if e.number? = some number then refs.count e.meter else 0).sum =
      (refs.map fun r => ((l.filterMap (Emission.batchOf? r)).map Prod.fst).count number).sum := by
  induction l with
  | nil => simp
  | cons e l ih =>
      have head (r : MeterRef) : (((e :: l).filterMap (Emission.batchOf? r)).map Prod.fst).count
          number = (if e.meter == r ∧ e.number? = some number then 1 else 0) +
            ((l.filterMap (Emission.batchOf? r)).map Prod.fst).count number := by
        have first := e.batchOf?_fst r
        cases told : e.batchOf? r with
        | none =>
            rw [List.filterMap_cons_none told, if_neg, Nat.zero_add]
            rintro ⟨same, isNumber⟩
            rw [told, if_pos (beq_iff_eq.mp same), isNumber] at first
            cases first
        | some entry =>
            rw [told, Option.map_some] at first
            by_cases same : e.meter = r
            · rw [if_pos same] at first
              rw [List.filterMap_cons_some told, List.map_cons, List.count_cons, Nat.add_comm,
                ← first]
              simp [same]
            · rw [if_neg same] at first
              cases first
      simp only [List.map_cons, List.sum_cons, ih, head, List.sum_map_add]
      congr 1
      split
      · next isNumber =>
          simp only [isNumber, and_true]
          rw [sum_map_ite_one, List.count_eq_countP]
          exact List.countP_congr fun r _ => by rw [beq_iff_eq, beq_iff_eq, eq_comm]
      · next other => simp [other]

private theorem State.count_batchBegin (s : State) (number : Nat) (e : Emission) :
    (s.deliveries e).count (.batchBegin number) = if e.number? = some number then 1 else 0 := by
  have points (owner : Option Nat) (l : List Point) :
      (l.map (Delivery.point owner)).count (.batchBegin number) = 0 := by
    rw [List.count_eq_zero, List.mem_map]
    rintro ⟨_, _, same⟩
    cases same
  cases e with
  | single x => exact points none _
  | batch r other members =>
      rw [deliveries, List.count_append, List.count_cons, points, List.count_singleton]
      simp [Emission.number?]

private theorem State.count_batchEnd (s : State) (number : Nat) (e : Emission) :
    (s.deliveries e).count (.batchEnd number) = if e.number? = some number then 1 else 0 := by
  have points (owner : Option Nat) (l : List Point) :
      (l.map (Delivery.point owner)).count (.batchEnd number) = 0 := by
    rw [List.count_eq_zero, List.mem_map]
    rintro ⟨_, _, same⟩
    cases same
  cases e with
  | single x => exact points none _
  | batch r other members =>
      rw [deliveries, List.count_append, List.count_cons, points, List.count_singleton]
      simp [Emission.number?]

/-- What each batch of a number tells once, the sink is told once by each meter that has committed
so many batches. -/
theorem Registry.Serves.count_expected (serves : registry.Serves s)
    (emitting : State.Emitting calls) {number : Nat} {d : Delivery}
    (once : ∀ e, (s.deliveries e).count d = if e.number? = some number then 1 else 0) :
    (s.expected calls registry.sink).count d =
      registry.meters.countP fun entry => number < calls.countP (Call.commits entry.2) := by
  have each (e : Emission) : (s.emitted registry.sink e).count d =
      if e.number? = some number then (registry.meters.map Prod.snd).count e.meter else 0 := by
    rw [serves.count_meters, State.emitted]
    split
    · exact once e
    · exact (ite_self 0).symm
  have drawn (r : MeterRef) : ((batchesOf calls r).map Prod.fst).count number =
      if decide (number < calls.countP (Call.commits r)) then 1 else 0 := by
    rw [emitting.numbers_batchesOf, List.count_range]
    simp only [decide_eq_true_eq]
  calc (s.expected calls registry.sink).count d
      = ((emissions calls).map fun e => (s.emitted registry.sink e).count d).sum :=
        List.count_flatMap
    _ = ((registry.meters.map Prod.snd).map fun r =>
          ((batchesOf calls r).map Prod.fst).count number).sum := by
        simp only [each]
        exact sum_batches _ number _
    _ = _ := by
        simp only [drawn]
        rw [sum_map_ite_one, List.countP_map]
        rfl

/-! ## Entries -/

/-- The name of the instrument and the value of a measurement. -/
def State.named? (s : State) (x : Measurement) : Option (String × Value) :=
  (s.instrument? x.instrument).map fun i => (i.config.name, x.value)

/-- The point of a measurement names its meter and its instrument. -/
theorem State.Accounted.named {e : Emission} {x : Measurement}
    (accounted : s.Accounted sinks calls) (orderly : s.Orderly) (emitted : e ∈ emissions calls)
    (member : x ∈ e.measurements) : ∃ m point, s.meter? e.meter = some m ∧
      s.point? x = some point ∧ point.descriptor.meter = m.name ∧
      s.named? x = some (point.descriptor.name, point.value) := by
  obtain ⟨m, i, meter, point, means⟩ := accounted.means emitted member
  have described : i.descriptor = i.config.descriptor m.name x.instrument.index :=
    (orderly.meters _ m means.meter).described _ i means.registered
  refine ⟨m, _, meter, point, ?_, ?_⟩
  · rw [means.descriptor, described]
    rfl
  · rw [named?, State.instrument?_eq_some.mpr ⟨m, means.meter, means.registered⟩, Option.map_some,
      means.descriptor, described, means.value]
    rfl

private theorem State.memberOf?_deliveries (s : State) (number : Nat) (e : Emission) :
    (s.deliveries e).filterMap (Delivery.memberOf? number) =
      if e.number? = some number then e.measurements.filterMap s.point? else [] := by
  cases e with
  | single x =>
      rw [deliveries, List.filterMap_map]
      cases s.point? x <;> rfl
  | batch r other members =>
      have points : ((members.filterMap s.point?).map (Delivery.point (some other))).filterMap
          (Delivery.memberOf? number) =
        if other = number then members.filterMap s.point? else [] := by
        rw [List.filterMap_map]
        split
        · next same =>
            refine (List.filterMap_congr fun p _ => ?_).trans List.filterMap_some
            exact if_pos same
        · next other =>
            exact List.filterMap_eq_nil_iff.mpr fun p _ => if_neg other
      rw [deliveries, List.filterMap_append, List.filterMap_cons_none rfl, points,
        List.filterMap_cons_none rfl, List.filterMap_nil, List.append_nil]
      simp only [Emission.number?, Option.some.injEq, Emission.measurements]

/-- Of the points of a number that one emission tells, those that name a meter are those of its
batch of the number. -/
theorem Registry.Serves.named_points (serves : registry.Serves s)
    (accounted : s.Accounted sinks calls) (orderly : s.Orderly) {name : String} {r : MeterRef}
    (isListed : (name, r) ∈ registry.meters) (number : Nat) {e : Emission}
    (emitted : e ∈ emissions calls) :
    ((s.emitted registry.sink e).filterMap (Delivery.memberOf? number)).filter
        (fun p => p.descriptor.meter = name) =
      ((e.batchOf? r).toList.filter fun entry => entry.1 = number).flatMap fun entry =>
        entry.2.filterMap s.point? := by
  obtain ⟨m, found⟩ := (accounted.covered e emitted).meter
  have ofMeter : ∀ p ∈ e.measurements.filterMap s.point?, p.descriptor.meter = m.name := by
    intro p member
    obtain ⟨x, isMember, isPoint⟩ := List.mem_filterMap.mp member
    obtain ⟨m', p', found', isPoint', ofMeter, _⟩ := accounted.named orderly emitted isMember
    cases found.symm.trans found'
    cases isPoint.symm.trans isPoint'
    exact ofMeter
  have whole : (e.batchOf? r).toList.filter (fun entry => entry.1 = number) =
      if e.meter = r ∧ e.number? = some number then [(number, e.measurements)] else [] := by
    cases e with
    | single x => simp [Emission.batchOf?, Emission.number?]
    | batch owner other members =>
        rw [Emission.batchOf?]
        by_cases same : owner = r <;> by_cases isNumber : other = number <;>
          simp [same, isNumber, Emission.meter, Emission.number?, Emission.measurements]
  rw [State.emitted, found, Option.map_some, whole]
  -- The number alone does not tell the meter. Among the meters that report to the sink of the
  -- registry the name does, since no two of them share one.
  by_cases reports : m.sink = registry.sink
  · rw [if_pos (congrArg some reports), s.memberOf?_deliveries]
    have tells := serves.name_eq_iff isListed found reports
    by_cases isNumber : e.number? = some number
    · rw [if_pos isNumber]
      by_cases same : e.meter = r
      · rw [if_pos ⟨same, isNumber⟩, List.flatMap_singleton, List.filter_eq_self]
        exact fun p member => decide_eq_true ((ofMeter p member).trans (tells.mpr same))
      · rw [if_neg fun both => same both.1, List.flatMap_nil, List.filter_eq_nil_iff]
        intro p member isNamed
        exact same (tells.mp ((ofMeter p member).symm.trans (of_decide_eq_true isNamed)))
    · rw [if_neg isNumber, if_neg fun both => isNumber both.2]
      rfl
  · rw [if_neg fun same => reports (Option.some.inj same), if_neg]
    · rfl
    · rintro ⟨rfl, _⟩
      obtain ⟨m', found', _, reports'⟩ := serves.listed name _ isListed
      cases found.symm.trans found'
      exact reports reports'

/-! ## Attribution -/

/-- **What a log tells of the batches of a registry.** -/
structure Attributed (calls : List Call) (s : State) (registry : Registry) (log : List Delivery) :
    Prop where
  /-- Each meter numbers its batches from zero, without gaps. -/
  numbered : ∀ r, (batchesOf calls r).map Prod.fst = List.range (calls.countP (Call.commits r))
  /-- Each accepted commit is one of these batches, with the entries put into it in order. -/
  committed : ∀ earlier b a later, calls = earlier ++ ⟨.commit b, .ok a⟩ :: later →
    ∃ labels, (accountOf earlier b.meter).opened b.index = some labels ∧
      ((accountOf earlier b.meter).committed,
        ((accountOf earlier b.meter).entries b.index).map fun (i, value) => ⟨i, labels, value⟩) ∈
          batchesOf calls b.meter
  /-- A number is begun once by each meter that has committed so many batches. -/
  begins : ∀ number, log.count (.batchBegin number) =
    registry.meters.countP fun entry => number < calls.countP (Call.commits entry.2)
  /-- A number is ended once by each of them. -/
  ends : ∀ number, log.count (.batchEnd number) =
    registry.meters.countP fun entry => number < calls.countP (Call.commits entry.2)
  /-- The entries under a number that name a meter are those of its batch of that number. -/
  entries : ∀ name r number members, (name, r) ∈ registry.meters →
    (number, members) ∈ batchesOf calls r →
      (((Sink.recording log).batchEntries number).filter fun p => p.descriptor.meter = name).map
        (fun p => some (p.descriptor.name, p.value)) = members.map s.named?
  /-- No entry under a number names any other meter. -/
  owned : ∀ number, ∀ p ∈ (Sink.recording log).batchEntries number, ∃ r,
    (p.descriptor.meter, r) ∈ registry.meters ∧ number < calls.countP (Call.commits r)
  /-- A number that one meter alone has used tells its batch. -/
  sole : ∀ name r number members, (name, r) ∈ registry.meters →
    (number, members) ∈ batchesOf calls r →
    (∀ entry ∈ registry.meters, number < calls.countP (Call.commits entry.2) →
      entry = (name, r)) →
    log.count (.batchBegin number) = 1 ∧ log.count (.batchEnd number) = 1 ∧
      ((Sink.recording log).batchEntries number).map
        (fun p => some (p.descriptor.name, p.value)) = members.map s.named?

section Expected

variable (serves : registry.Serves s) (accounted : s.Accounted sinks calls) (orderly : s.Orderly)

include serves accounted orderly

private theorem entries_expected
    {name : String} {r : MeterRef} {number : Nat} {members : List Measurement}
    (isListed : (name, r) ∈ registry.meters) (committed : (number, members) ∈ batchesOf calls r) :
    (((Sink.recording (s.expected calls registry.sink)).batchEntries number).filter
      fun p => p.descriptor.meter = name).map (fun p => some (p.descriptor.name, p.value)) =
      members.map s.named? := by
  obtain ⟨e, emitted, isBatch⟩ := List.mem_filterMap.mp committed
  have isMember : ∀ x ∈ members, x ∈ e.measurements := by
    cases e with
    | single x => cases isBatch
    | batch owner other members' =>
        obtain ⟨_, same⟩ := Option.ite_none_right_eq_some.mp isBatch
        cases same
        exact fun x member => member
  have points : ((Sink.recording (s.expected calls registry.sink)).batchEntries number).filter
      (fun p => p.descriptor.meter = name) = members.filterMap s.point? := by
    change ((s.expected calls registry.sink).filterMap _).filter _ = _
    rw [State.expected, List.filterMap_flatMap, List.filter_flatMap, List.flatMap_congr fun e emitted =>
      serves.named_points accounted orderly isListed number emitted, ← List.flatMap_assoc,
      ← List.filter_flatMap, ← List.filterMap_eq_flatMap_toList, ← batchesOf,
      filter_fst_eq_singleton (accounted.emitting.nodup_batchesOf r) committed,
      List.flatMap_singleton]
  rw [points, List.map_filterMap, ← List.filterMap_eq_map]
  refine List.filterMap_congr fun x member => ?_
  obtain ⟨_, point, _, isPoint, _, named⟩ := accounted.named orderly emitted (isMember x member)
  rw [isPoint, Option.map_some, Function.comp_apply, named]

private theorem owned_expected {number : Nat} {p : Point}
    (told : p ∈ (Sink.recording (s.expected calls registry.sink)).batchEntries number) :
    ∃ r, (p.descriptor.meter, r) ∈ registry.meters ∧ number < calls.countP (Call.commits r) := by
  obtain ⟨d, isTold, isMember⟩ := List.mem_filterMap.mp told
  obtain ⟨e, emitted, isTold⟩ := List.mem_flatMap.mp isTold
  by_cases here : (s.meter? e.meter).map Meter.sink = some registry.sink
  · have inside : p ∈ (s.deliveries e).filterMap (Delivery.memberOf? number) := by
      rw [State.emitted, if_pos here] at isTold
      exact List.mem_filterMap.mpr ⟨d, isTold, isMember⟩
    rw [s.memberOf?_deliveries] at inside
    split at inside
    · next isNumber =>
        obtain ⟨x, isMeasured, isPoint⟩ := List.mem_filterMap.mp inside
        obtain ⟨m, p', found, isPoint', ofMeter, _⟩ := accounted.named orderly emitted isMeasured
        cases isPoint.symm.trans isPoint'
        rw [found] at here
        obtain ⟨name, isListed⟩ := serves.only e.meter m found (Option.some.inj here)
        obtain ⟨m', found', named, _⟩ := serves.listed name e.meter isListed
        cases found.symm.trans found'
        refine ⟨e.meter, (ofMeter.trans named) ▸ isListed, ?_⟩
        rw [← List.mem_range, ← accounted.emitting.numbers_batchesOf]
        have first := e.batchOf?_fst e.meter
        rw [if_pos rfl, isNumber] at first
        obtain ⟨batch, isBatch, isFirst⟩ := Option.map_eq_some_iff.mp first
        exact List.mem_map.mpr ⟨batch, List.mem_filterMap.mpr ⟨e, emitted, isBatch⟩, isFirst⟩
    · cases inside
  · rw [State.emitted, if_neg here] at isTold
    cases isTold

private theorem attributed_expected :
    Attributed calls s registry (s.expected calls registry.sink) := by
  have begins (number : Nat) :=
    serves.count_expected accounted.emitting (s.count_batchBegin number)
  have ends (number : Nat) := serves.count_expected accounted.emitting (s.count_batchEnd number)
  refine ⟨accounted.emitting.numbers_batchesOf, ?_, begins, ends, ?_, ?_, ?_⟩
  · rintro earlier b a later rfl
    obtain ⟨e, emits⟩ := Option.isSome_iff_exists.mp (accounted.emitting earlier _ later rfl)
    obtain ⟨labels, opened, rfl⟩ := Option.map_eq_some_iff.mp emits
    exact ⟨labels, opened, List.mem_filterMap.mpr ⟨_, mem_emissions emits, if_pos rfl⟩⟩
  · intro name r number members isListed committed
    exact entries_expected serves accounted orderly isListed committed
  · intro number p told
    exact owned_expected serves accounted orderly told
  · intro name r number members isListed committed alone
    have used : number < calls.countP (Call.commits r) := by
      rw [← List.mem_range, ← accounted.emitting.numbers_batchesOf]
      exact List.mem_map_of_mem (f := Prod.fst) committed
    have one : (registry.meters.countP fun entry =>
        number < calls.countP (Call.commits entry.2)) = 1 := by
      rw [← List.count_eq_one_of_mem (List.Nodup.of_map _ serves.distinct) isListed,
        List.count_eq_countP]
      refine List.countP_congr fun entry member => ?_
      rw [decide_eq_true_eq, beq_iff_eq]
      exact ⟨alone entry member, fun same => same ▸ used⟩
    refine ⟨(begins number).trans one, (ends number).trans one, ?_⟩
    rw [← entries_expected serves accounted orderly isListed committed]
    congr 1
    refine (List.filter_eq_self.mpr fun p told => decide_eq_true ?_).symm
    obtain ⟨r', isListed', used'⟩ := owned_expected serves accounted orderly told
    exact congrArg Prod.fst (alone _ isListed' used')

end Expected

/-- **A batch is told by its meter and its number**, at the end of every history in which the meters
of a registry, and no others, report to its sink, a recording one. -/
theorem attributed_of_history (history : History sinks calls s) {place : Nat}
    (standing : s.registries[place]? = some registry)
    (recording : sinks[registry.sink.index]? = some (.recording []))
    (only : ∀ r m, s.meter? r = some m → m.sink = registry.sink →
      ∃ name, (name, r) ∈ registry.meters) :
    ∃ log, s.sink? registry.sink = some (.recording log) ∧ Attributed calls s registry log := by
  have accounted := State.accounted_of_history history
  have orderly := State.orderly_of_history history
  have serves : registry.Serves s :=
    ⟨orderly.distinct place registry standing, orderly.listed place registry standing, only⟩
  refine ⟨_, ?_, attributed_expected serves accounted orderly⟩
  rw [accounted.told, recording, Option.map_some, foldl_receive_recording, List.nil_append]

/-! ## Two meters of one registry -/

namespace State

/-- The state after some requests. -/
def after (s : State) (operations : List Operation) : State :=
  operations.foldl (fun s operation => (s.perform operation).2) s

/-- Requests made in turn, with their answers. -/
def callsOf (s : State) : List Operation → List Call
  | [] => []
  | operation :: rest => s.call operation :: (s.perform operation).2.callsOf rest

end State

/-- A history goes on with the calls of operations. -/
theorem History.after (history : History sinks calls s) (operations : List Operation) :
    History sinks (calls ++ s.callsOf operations) (s.after operations) := by
  induction operations generalizing calls s with
  | nil =>
      rw [State.callsOf, List.append_nil]
      exact history
  | cons operation rest ih =>
      have whole := ih (history.perform operation)
      rw [List.append_assoc] at whole
      exact whole

/-- Batches are told by their numbers alone. -/
def ToldByNumber (calls : List Call) (s : State) (k : SinkRef) : Prop :=
  ∀ r number members, (number, members) ∈ batchesOf calls r →
    ∃ log, s.sink? k = some (.recording log) ∧
      log.count (.batchBegin number) = 1 ∧ log.count (.batchEnd number) = 1 ∧
      ((Sink.recording log).batchEntries number).map
        (fun p => some (p.descriptor.name, p.value)) = members.map s.named?

/-- Two meters of one registry commit a batch each. -/
def sharing : List Operation :=
  [.createRegistry ⟨0⟩, .getMeter ⟨0⟩ "a", .getMeter ⟨0⟩ "b",
    .build ⟨0⟩ ⟨"x", .counter, .long, []⟩, .build ⟨1⟩ ⟨"y", .counter, .long, []⟩,
    .openBatch ⟨0⟩ .empty, .put ⟨⟨0⟩, 0⟩ ⟨⟨0⟩, 0⟩ (.long 1), .commit ⟨⟨0⟩, 0⟩,
    .openBatch ⟨1⟩ .empty, .put ⟨⟨1⟩, 0⟩ ⟨⟨1⟩, 0⟩ (.long 2), .commit ⟨⟨1⟩, 0⟩]

/-- A recording sink alone. -/
def sinkOnly : State :=
  (State.empty.createSink (.recording [])).2

/-- Two meters of a registry commit a batch each under the number zero. -/
theorem attributed_sharing :
    (sinkOnly.after sharing).registries[0]? = some ⟨⟨0⟩, [("a", ⟨0⟩), ("b", ⟨1⟩)]⟩ ∧
    (sinkOnly.callsOf sharing).countP (Call.commits ⟨1⟩) = 1 ∧
    ∃ log, (sinkOnly.after sharing).sink? ⟨0⟩ = some (.recording log) ∧
      Attributed (sinkOnly.callsOf sharing) (sinkOnly.after sharing)
        ⟨⟨0⟩, [("a", ⟨0⟩), ("b", ⟨1⟩)]⟩ log := by
  have standing : (sinkOnly.after sharing).registries[0]? =
      some ⟨⟨0⟩, [("a", ⟨0⟩), ("b", ⟨1⟩)]⟩ := by decide +kernel
  have two : (sinkOnly.after sharing).meters.length = 2 := by decide +kernel
  refine ⟨standing, by decide +kernel,
    attributed_of_history ((History.empty.createSink (.recording [])).after sharing) standing rfl ?_⟩
  intro r m found _
  have inside : r.index < 2 := two ▸ (List.getElem?_eq_some_iff.mp found).1
  obtain ⟨index⟩ := r
  match index with
  | 0 => exact ⟨"a", by decide⟩
  | 1 => exact ⟨"b", by decide⟩

/-- The two batches have one number, and the sink is told its brackets twice. -/
theorem not_toldByNumber_sharing :
    History [.recording []] (sinkOnly.callsOf sharing) (sinkOnly.after sharing) ∧
    ((sinkOnly.after sharing).sink? ⟨0⟩).map (fun sink =>
      (sink.batchEntries 0).map fun p => (p.descriptor.name, p.value)) =
        some [("x", .long 1), ("y", .long 2)] ∧
    ¬ ToldByNumber (sinkOnly.callsOf sharing) (sinkOnly.after sharing) ⟨0⟩ := by
  have history : History [.recording []] (sinkOnly.callsOf sharing) (sinkOnly.after sharing) :=
    (History.empty.createSink (.recording [])).after sharing
  refine ⟨history, by decide +kernel, fun toldByNumber => ?_⟩
  have first : 0 ∈ (batchesOf (sinkOnly.callsOf sharing) ⟨0⟩).map Prod.fst := by
    rw [(State.accounted_of_history history).emitting.numbers_batchesOf]
    decide +kernel
  obtain ⟨⟨_, members⟩, isBatch, rfl⟩ := List.mem_map.mp first
  obtain ⟨log, isLog, once, _⟩ := toldByNumber ⟨0⟩ 0 members isBatch
  have twice : ((sinkOnly.after sharing).sink? ⟨0⟩).map
      (fun sink => sink.deliveries.count (.batchBegin 0)) = some 2 := by decide +kernel
  rw [isLog, Option.map_some, Sink.deliveries, once] at twice
  cases twice

end Metering
