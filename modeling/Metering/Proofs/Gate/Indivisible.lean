import Metering.Proofs.Gate.Calls
import Metering.Proofs.Gate.Numbers

/-! # Batches are indivisible

Threads record points directly, through bindings and as observers, and commit batches, in any
interleaving of their steps at the gates. The sink then sees each batch undivided among all that
was called with labels on the same stripe, and batches are numbered without gaps
(`Metering.Concurrent.GateState.indivisible_of_reachable`).
-/

namespace Metering

namespace Passage

/-- The beginning of a batch is told first, before its entries and its end. -/
theorem eq_batch_of_begin {passage : Passage} {number b : Nat} {opening closing : List Delivery}
    (split : passage.deliveries number = opening ++ .batchBegin b :: closing) :
    ∃ labels points, passage = .batch labels points ∧ number = b ∧ opening = [] ∧
      closing = points.map (.point (some b)) ++ [.batchEnd b] := by
  cases passage with
  | single labels point =>
      have member : Delivery.batchBegin b ∈ [Delivery.point none point] := by
        change [Delivery.point none point] = _ at split
        rw [split]
        exact List.mem_append_right _ List.mem_cons_self
      simp at member
  | batch labels points =>
      rw [deliveries, List.cons_append] at split
      cases opening with
      | nil =>
          obtain ⟨same, rest⟩ := List.cons.inj split
          cases same
          exact ⟨labels, points, rfl, rfl, rfl, rest.symm⟩
      | cons first opening =>
          have member : Delivery.batchBegin b ∈
              points.map (Delivery.point (some number)) ++ [Delivery.batchEnd number] := by
            rw [(List.cons.inj split).2]
            exact List.mem_append_right _ List.mem_cons_self
          simp at member

private theorem eq_batch_of_end
    {passage : Passage} {number b : Nat} {opening closing : List Delivery}
    (split : passage.deliveries number = opening ++ .batchEnd b :: closing) :
    ∃ labels points, passage = .batch labels points ∧ number = b ∧ closing = [] := by
  cases passage with
  | single labels point =>
      have member : Delivery.batchEnd b ∈ [Delivery.point none point] := by
        change [Delivery.point none point] = _ at split
        rw [split]
        exact List.mem_append_right _ List.mem_cons_self
      simp at member
  | batch labels points =>
      rw [deliveries] at split
      rcases List.eq_nil_or_concat closing with rfl | ⟨closing, last, rfl⟩
      · have same := (List.append_inj' split rfl).2
        cases same
        exact ⟨labels, points, rfl, rfl, rfl⟩
      · rw [List.concat_eq_append, ← List.cons_append, ← List.append_assoc] at split
        have member : Delivery.batchEnd b ∈
            Delivery.batchBegin number :: points.map (Delivery.point (some number)) := by
          rw [(List.append_inj' split rfl).1]
          exact List.mem_append_right _ List.mem_cons_self
        simp at member

end Passage

namespace Concurrent

namespace GateState

variable {stripe : LabelSet → Nat} {k : Nat} {s : GateState}

private theorem Session.split_events {x : Session} {opening closing : List Told} {e : Told}
    (split : x.events = opening ++ e :: closing) :
    e.thread = x.thread ∧ e.passage = x.passage ∧ ∃ done pending,
      x.passage.deliveries x.number = done ++ e.delivery :: pending ∧
      opening = done.map (Told.mk x.thread x.passage) ∧
      closing = pending.map (Told.mk x.thread x.passage) := by
  obtain ⟨done, rest, whole, front, back⟩ := List.map_eq_append_iff.mp split
  obtain ⟨delivery, pending, next, isTold, after⟩ := List.map_eq_cons_iff.mp back
  subst isTold
  exact ⟨rfl, rfl, done, pending, by rw [whole, next], front.symm, after.symm⟩

/-- On its stripe, the beginning of a batch is followed by its entries and its end, as far as they
are told, and only then by others. -/
theorem Layout.after_begin (layout : s.Layout stripe k) {before after : List Told} {e : Told}
    {b : Nat} (stands : s.onStripe stripe k = before ++ e :: after)
    (begins : e.delivery = .batchBegin b) :
    ∃ pending others, after ++ pending =
      (e.passage.points.map (Delivery.point (some b)) ++ [Delivery.batchEnd b]).map
        (Told.mk e.thread e.passage) ++ others := by
  obtain ⟨sessions, pending, whole, _⟩ := layout.exists_sessions
  rw [stands, List.append_assoc, List.cons_append] at whole
  obtain ⟨_, x, last, opening, closing, block, _, rest⟩ := exists_block whole.symm
  obtain ⟨ofThread, ofPassage, done, todo, split, _, isClosing⟩ := x.split_events block
  rw [begins] at split
  obtain ⟨labels, points, isBatch, _, _, isRest⟩ := Passage.eq_batch_of_begin split
  refine ⟨pending, last.flatMap Session.events, ?_⟩
  rw [rest, isClosing, isRest, ofThread, ofPassage, isBatch]
  rfl

/-- On its stripe, the end of a batch closes a block of its beginning, its entries and its end. -/
theorem Layout.block_of_end (layout : s.Layout stripe k) {e : Told} {b : Nat}
    (told : e ∈ s.onStripe stripe k) (ends : e.delivery = .batchEnd b) :
    ∃ labels points before after, e.passage = .batch labels points ∧
      s.onStripe stripe k = before ++ (e.passage.deliveries b).map (Told.mk e.thread e.passage) ++
        after := by
  obtain ⟨front, after, stands⟩ := List.append_of_mem told
  obtain ⟨sessions, pending, whole, _⟩ := layout.exists_sessions
  rw [stands, List.append_assoc, List.cons_append] at whole
  obtain ⟨first, x, _, opening, closing, block, isFront, _⟩ := exists_block whole.symm
  obtain ⟨ofThread, ofPassage, done, todo, split, isOpening, _⟩ := x.split_events block
  rw [ends] at split
  obtain ⟨labels, points, isBatch, number, isNil⟩ := Passage.eq_batch_of_end split
  refine ⟨labels, points, first.flatMap Session.events, after, ofPassage.trans isBatch, ?_⟩
  have isEnd : e = ⟨x.thread, x.passage, .batchEnd b⟩ := by rw [← ofThread, ← ofPassage, ← ends]
  rw [stands, isFront, ofThread, ofPassage, ← number, split, isNil, isOpening, List.map_append,
    List.map_singleton, ← isEnd]
  simp only [List.append_assoc, List.singleton_append]

private theorem Layout.ascending (layout : s.Layout stripe k) :
    (batchNumbers ((s.onStripe stripe k).map Told.delivery)).Pairwise (· < ·) := by
  obtain ⟨sessions, pending, whole, numbered⟩ := layout.exists_sessions
  have numbers : batchNumbers ((sessions.flatMap Session.events).map Told.delivery) =
      numbersOf sessions := by
    clear whole numbered
    induction sessions with
    | nil => rfl
    | cons x sessions ih =>
        have own : batchNumbers (x.events.map Told.delivery) = numbersOf [x] := by
          rw [Session.events, List.map_map, numbersOf_singleton, ← batchNumbers_deliveries]
          exact congrArg batchNumbers (List.map_id _)
        rw [List.flatMap_cons, List.map_append, batchNumbers_append, own, ih, ← numbersOf_append,
          List.singleton_append]
  rw [← whole, List.map_append, batchNumbers_append] at numbers
  have all := numbered.1
  rw [← numbers] at all
  exact (List.pairwise_append.mp all).1

/-- Whatever follows the beginning of a batch on its stripe, with no end of the batch among it, is
an entry of the batch. -/
theorem Layout.within (layout : s.Layout stripe k) {before inside after : List Told}
    {opening : Told} {b : Nat} (stands : s.onStripe stripe k = before ++ opening :: (inside ++ after))
    (begins : opening.delivery = .batchBegin b) (unended : ∀ e ∈ inside, e.delivery ≠ .batchEnd b)
    {e : Told} (member : e ∈ inside) :
    ∃ point ∈ opening.passage.points,
      e = ⟨opening.thread, opening.passage, .point (some b) point⟩ := by
  obtain ⟨pending, others, rest⟩ := layout.after_begin stands begins
  rw [List.map_append, List.map_singleton, List.append_assoc, List.append_assoc] at rest
  have isEntry : e ∈ (opening.passage.points.map (Delivery.point (some b))).map
      (Told.mk opening.thread opening.passage) := by
    rcases List.append_eq_append_iff.mp rest with ⟨more, entries, _⟩ | ⟨more, split, closing⟩
    · rw [entries]
      exact List.mem_append_left _ member
    · cases more with
      | nil => rwa [split, List.append_nil] at member
      | cons first more =>
          -- The end of the batch would stand inside.
          have ended := (List.cons.inj closing).1
          have isInside : first ∈ inside := by
            rw [split]
            exact List.mem_append_right _ List.mem_cons_self
          exact absurd (by rw [← ended]) (unended first isInside)
  obtain ⟨_, isPoint, rfl⟩ := List.mem_map.mp isEntry
  obtain ⟨point, listed, rfl⟩ := List.mem_map.mp isPoint
  exact ⟨point, listed, rfl⟩

/-- What the sink of a meter was told by threads that call it. -/
structure Indivisible (stripe : LabelSet → Nat) (programs : List (List (Meter × Recording)))
    (s : GateState) : Prop where
  /-- Whatever is told belongs to a call of its thread, in the gate of the caller's labels. -/
  called : ∀ e ∈ s.told, ∃ program m call, programs[e.thread]? = some program ∧
    (m, call) ∈ program ∧ e.passage ∈ call.passages m ∧ call.labels? m = some e.passage.labels
  /-- Between the brackets of a batch, its stripe is told only entries of the batch. -/
  within : ∀ before opening inside after b,
    s.told = before ++ opening :: inside ++ after → opening.delivery = .batchBegin b →
    (∀ e ∈ inside, e.delivery ≠ .batchEnd b) →
    ∀ e ∈ inside, stripe e.passage.labels = stripe opening.passage.labels →
      ∃ point ∈ opening.passage.points,
        e = ⟨opening.thread, opening.passage, .point (some b) point⟩
  /-- Along its stripe, a batch that a thread commits is told in one block: its beginning, the
  points of its entries in the order of the recorder, and its end. -/
  contiguous : ∀ e ∈ s.told, ∀ b, e.delivery = .batchEnd b →
    ∃ program m place batch points, programs[e.thread]? = some program ∧
      (m, .batch place) ∈ program ∧ Recording.Commits m place batch points ∧
      e.passage = .batch batch.labels points ∧ ∃ before after,
        s.onStripe stripe (stripe batch.labels) = before ++
          (Delivery.batchBegin b :: points.map (Delivery.point (some b)) ++
            [Delivery.batchEnd b]).map (Told.mk e.thread e.passage) ++ after
  /-- No two batches have one number. -/
  distinct : (batchNumbers s.stream).Nodup
  /-- In the end, the numbers are those from zero up to the number of batches committed. -/
  numbered : s.Finished → (batchNumbers s.stream).Perm
    (List.range (programs.flatten.countP fun (m, call) => call.isCommitted m))
  /-- In the end, every thread has told what it called, completely and in order. -/
  complete : s.Finished → ∀ thread program, programs[thread]? = some program →
    ∃ sessions : List Session, (∀ x ∈ sessions, x.thread = thread) ∧
      sessions.map Session.passage = Recording.passagesOf program ∧
      s.toldBy thread = sessions.flatMap Session.events
  /-- Along a stripe, batches begin in the order of their numbers. -/
  ascending : ∀ k, (batchNumbers ((s.onStripe stripe k).map Told.delivery)).Pairwise (· < ·)

private theorem mem_onStripe {e : Told} (told : e ∈ s.told) :
    e ∈ s.onStripe stripe (stripe e.passage.labels) :=
  List.mem_filter.mpr ⟨told, decide_eq_true rfl⟩

/-- Whatever is told belongs to a call of its thread. -/
theorem called_of_reachable {programs : List (List (Meter × Recording))}
    (reachable : (machine stripe).Reachable (start (programs.map Recording.passagesOf)) s)
    {e : Told} (told : e ∈ s.told) : ∃ program m call, programs[e.thread]? = some program ∧
      (m, call) ∈ program ∧ e.passage ∈ call.passages m := by
  obtain ⟨passages, given, member⟩ := mem_program_of_reachable reachable told
  obtain ⟨program, isProgram, rfl⟩ := Option.map_eq_some_iff.mp (List.getElem?_map .. ▸ given)
  obtain ⟨⟨m, call⟩, isCall, brings⟩ := List.mem_flatMap.mp member
  exact ⟨program, m, call, isProgram, isCall, brings⟩

/-- **Batches are indivisible**, however the threads that record and commit take turns, whatever
the number of stripes and the digest that finds them. -/
theorem indivisible_of_reachable (count : Nat) (digest : LabelSet → UInt64)
    (programs : List (List (Meter × Recording))) {s : GateState}
    (reachable : (machine (stripeOf count digest)).Reachable
      (start (programs.map Recording.passagesOf)) s) :
    s.Indivisible (stripeOf count digest) programs where
  called e told := by
    obtain ⟨program, m, call, given, isCall, brings⟩ := called_of_reachable reachable told
    exact ⟨program, m, call, given, isCall, brings, Recording.labels?_of_mem_passages brings⟩
  within before opening inside after b told begins unended e member same := by
    have layout := layout_of_reachable (k := stripeOf count digest opening.passage.labels) reachable
    let here (e : Told) : Bool :=
      stripeOf count digest e.passage.labels = stripeOf count digest opening.passage.labels
    have stands :
        s.onStripe (stripeOf count digest) (stripeOf count digest opening.passage.labels) =
          before.filter here ++ opening :: (inside.filter here ++ after.filter here) := by
      rw [onStripe, told]
      simp [here]
    exact layout.within stands begins
      (fun e member => unended e (List.mem_of_mem_filter member))
      (List.mem_filter.mpr ⟨member, decide_eq_true same⟩)
  contiguous e told b ends := by
    obtain ⟨labels, points, before, after, isBatch, block⟩ :=
      (layout_of_reachable reachable).block_of_end (mem_onStripe told) ends
    obtain ⟨program, m, call, given, isCall, brings⟩ := called_of_reachable reachable told
    rw [isBatch] at block brings ⊢
    obtain ⟨place, batch, rfl, rfl, commits⟩ := Recording.commits_of_mem_passages brings
    exact ⟨program, m, place, batch, points, given, isCall, commits, rfl, before, after, block⟩
  distinct :=
    (List.nodup_append.mp
      ((counted_of_reachable reachable).numbers.nodup_iff.mpr List.nodup_range)).1
  numbered finished := by
    rw [← Recording.length_filter_passagesOf]
    exact (counted_of_reachable reachable).finished finished
  complete finished thread program given := by
    have inside : thread < s.threads.length := by
      rw [length_threads_of_reachable reachable, List.length_map]
      exact (List.getElem?_eq_some_iff.mp given).1
    have found : s.threads[thread]? = some ⟨.outside, []⟩ := by
      rw [List.getElem?_eq_getElem inside, finished _ (List.getElem_mem inside)]
    obtain ⟨sessions, own, planned, told⟩ := (inProgress_of_reachable reachable).finished found
    rw [List.getElem?_map, given, Option.map_some] at planned
    exact ⟨sessions, own, (Option.some.inj planned).symm, told⟩
  ascending k := (layout_of_reachable reachable).ascending

/-- The meter of a trial with a batch of one entry, and two threads: one commits the batch, and the
other records a point with the labels of the batch. -/
def committing : List (List (Meter × Recording)) :=
  let m : Meter := { trialMeter with batches := [⟨.empty, [(0, one)], false⟩] }
  [[(m, .batch 0)], [(m, .direct 0 one .empty)]]

/-- The threads take turns until both are through. -/
def committed : GateState :=
  (machine (stripeOf 16 fun _ => 0)).run (Machine.roundRobin 2 9)
    (start (committing.map Recording.passagesOf))

/-- One thread commits a batch while the other records a point on the same stripe. -/
theorem indivisible_committed :
    committed.Finished ∧ committed.Indivisible (stripeOf 16 fun _ => 0) committing :=
  ⟨by decide, indivisible_of_reachable 16 (fun _ => 0) committing (Machine.reachable_run ..)⟩

end GateState

end Concurrent

end Metering
