import Metering.Proofs.Gate.Sessions

/-! # The numbers of the batches

Every number below the next was drawn by one batch: the sink was told of its beginning, or its
thread is about to tell it. The batches that have not drawn a number are those still to come in the
programs. So the threads of a finished run have drawn as many numbers as there are batches
(`Metering.Concurrent.GateState.Counted.finished`).
-/

namespace Metering.Concurrent

/-- The numbers of the batches that a thread is about to begin. -/
def GateThread.drawn (t : GateThread) : List Nat :=
  match t.place with
  | .telling _ pending => batchNumbers pending
  | _ => []

/-- The batches of a thread that have not drawn their numbers. -/
def GateThread.undrawn (t : GateThread) : List Passage :=
  match t.place with
  | .drawing passage => passage :: t.todo.filter Passage.isAlone
  | _ => t.todo.filter Passage.isAlone

@[simp]
theorem batchNumbers_append (first second : List Delivery) :
    batchNumbers (first ++ second) = batchNumbers first ++ batchNumbers second :=
  List.filterMap_append

/-- A passage that is alone tells of its number once, another of none. -/
theorem batchNumbers_deliveries (passage : Passage) (number : Nat) :
    batchNumbers (passage.deliveries number) = if passage.isAlone then [number] else [] := by
  cases passage with
  | single labels point => rfl
  | batch labels points =>
      have members : batchNumbers (points.map (Delivery.point (some number))) = [] := by
        simp [batchNumbers]
      rw [Passage.deliveries, List.cons_append, ← List.singleton_append, batchNumbers_append,
        batchNumbers_append, members]
      rfl

namespace GateState

variable {stripe : LabelSet → Nat} {thread : Nat} {s s' : GateState}
variable {programs : List (List Passage)}

/-- **Every number was drawn by one batch**, and every batch has drawn one or is still to come. -/
structure Counted (programs : List (List Passage)) (s : GateState) : Prop where
  numbers : (batchNumbers s.stream ++ s.threads.flatMap GateThread.drawn).Perm
    (List.range s.nextBatch)
  batches : s.nextBatch + (s.threads.flatMap GateThread.undrawn).length =
    (programs.flatten.filter Passage.isAlone).length

/-- A step keeps the count if it draws no number and begins only batches that have drawn theirs. -/
theorem Counted.of_kept (counted : s.Counted programs) {old new : GateThread} {more : List Told}
    (found : s.threads[thread]? = some old) (threads : s'.threads = s.threads.set thread new)
    (numbers : s'.nextBatch = s.nextBatch) (told : s'.told = s.told ++ more)
    (drawn : old.drawn = batchNumbers (more.map Told.delivery) ++ new.drawn)
    (undrawn : new.undrawn = old.undrawn) : s'.Counted programs := by
  obtain ⟨others, before, after⟩ := Place.exists_perm_flatMap_set GateThread.drawn found
  obtain ⟨others', before', after'⟩ := Place.exists_perm_flatMap_set GateThread.undrawn found
  have begun : batchNumbers s'.stream =
      batchNumbers s.stream ++ batchNumbers (more.map Told.delivery) := by
    rw [stream, told, List.map_append, batchNumbers_append, stream]
  constructor
  · have moved : (batchNumbers (more.map Told.delivery) ++ (new.drawn ++ others)).Perm
        (s.threads.flatMap GateThread.drawn) := by
      rw [← List.append_assoc, ← drawn]
      exact before.symm
    rw [begun, threads, numbers, List.append_assoc]
    exact (((after new).append_left _).trans moved).append_left _ |>.trans counted.numbers
  · rw [threads, numbers, (after' new).length_eq, undrawn, ← before'.length_eq]
    exact counted.batches

private theorem Counted.of_draw (counted : s.Counted programs)
    {passage : Passage} {rest : List Passage}
    (alone : passage.isAlone = true)
    (found : s.threads[thread]? = some ⟨.drawing passage, rest⟩)
    (threads : s'.threads =
      s.threads.set thread ⟨.telling passage (passage.deliveries s.nextBatch), rest⟩)
    (numbers : s'.nextBatch = s.nextBatch + 1) (told : s'.told = s.told) :
    s'.Counted programs := by
  obtain ⟨others, before, after⟩ := Place.exists_perm_flatMap_set GateThread.drawn found
  obtain ⟨others', before', after'⟩ := Place.exists_perm_flatMap_set GateThread.undrawn found
  constructor
  · have drawn := after ⟨.telling passage (passage.deliveries s.nextBatch), rest⟩
    simp only [GateThread.drawn, batchNumbers_deliveries, alone, if_true] at drawn
    rw [threads, numbers, List.range_succ, stream, told, ← stream]
    have last := (drawn.trans List.perm_append_comm).append_left (batchNumbers s.stream)
    rw [← List.append_assoc] at last
    exact last.trans (((before.append_left _).symm.trans counted.numbers).append_right _)
  · have total := counted.batches
    rw [before'.length_eq] at total
    rw [threads, numbers, (after' _).length_eq, ← total]
    simp only [GateThread.undrawn, List.length_append, List.length_cons]
    omega

private theorem Counted.of_move (counted : s.Counted programs) (inProgress : s.InProgress programs)
    (move : Move stripe thread s s') : s'.Counted programs := by
  cases move with
  | enter passage rest found admitted moved =>
      subst moved
      refine counted.of_kept found rfl rfl (List.append_nil _).symm ?_ ?_
      · cases passage <;> rfl
      · cases passage <;> rfl
  | draw passage rest found moved =>
      subst moved
      exact counted.of_draw (inProgress.isAlone_of_drawing found) found rfl rfl rfl
  | tell passage delivery pending rest found moved =>
      subst moved
      refine counted.of_kept found rfl rfl rfl ?_ rfl
      exact batchNumbers_append [delivery] pending
  | leave passage rest found moved =>
      subst moved
      exact counted.of_kept found rfl rfl (List.append_nil _).symm rfl rfl

/-- At each point, the numbers told and those yet to be told are as many as were drawn. -/
theorem counted_of_reachable (reachable : (machine stripe).Reachable (start programs) s) :
    s.Counted programs := by
  induction reachable with
  | start =>
      constructor
      · have none : (start programs).threads.flatMap GateThread.drawn = [] := by
          simp [start, GateThread.drawn]
        rw [none]
        exact .refl _
      · have all : (start programs).threads.flatMap GateThread.undrawn =
            programs.flatten.filter Passage.isAlone := by
          rw [start, List.flatMap_map, List.filter_flatten, List.flatMap_def]
          rfl
        rw [all, start, Nat.zero_add]
  | step thread reachable stepped ih =>
      exact ih.of_move (inProgress_of_reachable reachable) (move_of_step stepped)

/-! ## Finished runs -/

/-- Once all threads are done, the numbers told are all those below the number of batches. -/
theorem Counted.finished (counted : s.Counted programs) (finished : s.Finished) :
    (batchNumbers s.stream).Perm
      (List.range (programs.flatten.filter Passage.isAlone).length) := by
  have drawn : s.threads.flatMap GateThread.drawn = [] :=
    List.flatMap_eq_nil_iff.mpr fun t member => by rw [finished t member]; rfl
  have undrawn : s.threads.flatMap GateThread.undrawn = [] :=
    List.flatMap_eq_nil_iff.mpr fun t member => by rw [finished t member]; rfl
  have numbers := counted.numbers
  rw [drawn, List.append_nil] at numbers
  rw [← counted.batches, undrawn]
  exact numbers

end GateState

end Metering.Concurrent
