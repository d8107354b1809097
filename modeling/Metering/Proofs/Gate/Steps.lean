import Metering.Concurrent.Gate
import Metering.Proofs.Place

/-! # Steps at the gates

What one step of a thread at the gates of a meter can be (`Metering.Concurrent.GateState.Move`), and
two facts that every interleaving keeps. Whoever holds a gate alone is the only one in it
(`Metering.Concurrent.GateState.exclusive_of_reachable`). Each thread tells the passages of its
program one after the other, each completely and in order
(`Metering.Concurrent.GateState.inProgress_of_reachable`).
-/

namespace Metering.Concurrent.GateState

variable {stripe : LabelSet → Nat} {thread : Nat} {s s' : GateState}

/-- **What one step of a thread can be.** -/
inductive Move (stripe : LabelSet → Nat) (thread : Nat) (s s' : GateState) : Prop where
  /-- A passage takes its gate. -/
  | enter (passage : Passage) (rest : List Passage)
      (found : s.threads[thread]? = some ⟨.outside, passage :: rest⟩)
      (admitted : s.admits stripe passage = true)
      (moved : s' = { s with threads := s.threads.set thread ⟨.enter passage, rest⟩ })
  /-- A batch in its gate draws its number. -/
  | draw (passage : Passage) (rest : List Passage)
      (found : s.threads[thread]? = some ⟨.drawing passage, rest⟩)
      (moved : s' = { s with
        threads := s.threads.set thread ⟨.telling passage (passage.deliveries s.nextBatch), rest⟩
        nextBatch := s.nextBatch + 1 })
  /-- The sink is told one thing. -/
  | tell (passage : Passage) (delivery : Delivery) (pending : List Delivery) (rest : List Passage)
      (found : s.threads[thread]? = some ⟨.telling passage (delivery :: pending), rest⟩)
      (moved : s' = { s with
        threads := s.threads.set thread ⟨.telling passage pending, rest⟩
        told := s.told ++ [⟨thread, passage, delivery⟩] })
  /-- A passage leaves its gate. -/
  | leave (passage : Passage) (rest : List Passage)
      (found : s.threads[thread]? = some ⟨.telling passage [], rest⟩)
      (moved : s' = { s with threads := s.threads.set thread ⟨.outside, rest⟩ })

/-- A step of the machine is one of the moves. -/
theorem move_of_step (stepped : (machine stripe).step thread s = some s') :
    Move stripe thread s s' := by
  change step stripe thread s = some s' at stepped
  unfold step at stepped
  cases found : s.threads[thread]? with
  | none => simp only [found, reduceCtorEq] at stepped
  | some t =>
      obtain ⟨place, todo⟩ := t
      simp only [found] at stepped
      cases place with
      | outside =>
          cases todo with
          | nil => cases stepped
          | cons passage rest =>
              by_cases admitted : s.admits stripe passage = true
              · simp only [admitted, ↓reduceIte] at stepped
                exact .enter passage rest found admitted (Option.some.inj stepped).symm
              · simp only [admitted, Bool.false_eq_true, ↓reduceIte, reduceCtorEq] at stepped
      | drawing passage =>
          apply Move.draw passage todo found
          rw [← Option.some.inj stepped, move, Place.modify_eq_set found]
      | telling passage pending =>
          cases pending with
          | nil =>
              apply Move.leave passage todo found
              rw [← Option.some.inj stepped, move, Place.modify_eq_set found]
          | cons delivery pending =>
              apply Move.tell passage delivery pending todo found
              rw [← Option.some.inj stepped, move, tell, Place.modify_eq_set found]

/-! ## The end of a run -/

/-- All threads are through with their programs. -/
def Finished (s : GateState) : Prop :=
  ∀ t ∈ s.threads, t = ⟨.outside, []⟩

instance (s : GateState) : Decidable s.Finished :=
  inferInstanceAs (Decidable (∀ t ∈ s.threads, t = ⟨.outside, []⟩))

private theorem passage?_eq_none_of_stuck {t : GateThread} (found : s.threads[thread]? = some t)
    (stuck : (machine stripe).step thread s = none) : t.place.passage? = none := by
  change step stripe thread s = none at stuck
  obtain ⟨place, todo⟩ := t
  simp only [step, found] at stuck
  cases place with
  | outside => rfl
  | drawing passage => cases stuck
  | telling passage pending => cases pending <;> cases stuck

/-- **The gates never lock up.** No thread has a step only if all are through. -/
theorem finished_iff_stuck : s.Finished ↔ ∀ thread, (machine stripe).step thread s = none := by
  constructor
  · intro finished thread
    change step stripe thread s = none
    unfold step
    cases found : s.threads[thread]? with
    | none => rfl
    | some t =>
        have through := finished t (List.mem_of_getElem? found)
        subst through
        rfl
  · intro stuck t member
    obtain ⟨thread, found⟩ := List.mem_iff_getElem?.mp member
    have outside := passage?_eq_none_of_stuck found (stuck thread)
    have still : step stripe thread s = none := stuck thread
    obtain ⟨place, todo⟩ := t
    cases place with
    | drawing passage => cases outside
    | telling passage pending => cases outside
    | outside =>
        cases todo with
        | nil => rfl
        | cons passage rest =>
            have admitted : s.admits stripe passage = true := by
              refine List.all_eq_true.mpr fun u inside => ?_
              obtain ⟨other, standing⟩ := List.mem_iff_getElem?.mp inside
              rw [passage?_eq_none_of_stuck standing (stuck other)]
            simp only [step, found, admitted, ↓reduceIte, reduceCtorEq] at still

/-! ## Exclusion -/

/-- **Exclusion.** Of two threads in one gate neither holds it alone. -/
def Exclusive (stripe : LabelSet → Nat) (s : GateState) : Prop :=
  ∀ (a b : Nat) (t u : GateThread) (p q : Passage), a ≠ b →
    s.threads[a]? = some t → s.threads[b]? = some u →
    t.place.passage? = some p → u.place.passage? = some q → stripe p.labels = stripe q.labels →
      p.isAlone = false ∧ q.isAlone = false

private theorem passage?_enter (passage : Passage) :
    (Place.enter passage).passage? = some passage := by
  cases passage <;> rfl

/-- A passage is let in only if nobody in its gate holds it alone, nor anybody if the passage is to
hold it alone. -/
theorem isAlone_of_admits {passage held : Passage} {a : Nat} {t : GateThread}
    (admitted : s.admits stripe passage = true) (found : s.threads[a]? = some t)
    (holds : t.place.passage? = some held) (same : stripe held.labels = stripe passage.labels) :
    held.isAlone = false ∧ passage.isAlone = false := by
  have letIn := List.all_eq_true.mp admitted t (List.mem_of_getElem? found)
  simp only [holds] at letIn
  simpa [same] using letIn

/-- A thread that goes on with the passage it holds, or leaves its gate, keeps exclusion. -/
theorem Exclusive.set (exclusive : s.Exclusive stripe) {old new : GateThread}
    (found : s.threads[thread]? = some old) (threads : s'.threads = s.threads.set thread new)
    (kept : ∀ p, new.place.passage? = some p → old.place.passage? = some p) :
    s'.Exclusive stripe := by
  intro a b t u p q different atA atB holdsA holdsB same
  rw [threads, Place.getElem?_set_eq_some found] at atA atB
  rcases atA with ⟨rfl, rfl⟩ | ⟨_, atA⟩
  · rcases atB with ⟨rfl, rfl⟩ | ⟨_, atB⟩
    · exact absurd rfl different
    · exact exclusive _ _ _ _ p q different found atB (kept p holdsA) holdsB same
  · rcases atB with ⟨rfl, rfl⟩ | ⟨_, atB⟩
    · exact exclusive _ _ _ _ p q different atA found holdsA (kept q holdsB) same
    · exact exclusive _ _ _ _ p q different atA atB holdsA holdsB same

private theorem Exclusive.of_move (exclusive : s.Exclusive stripe)
    (move : Move stripe thread s s') :
    s'.Exclusive stripe := by
  cases move with
  | enter passage rest found admitted moved =>
      subst moved
      intro a b t u p q different atA atB holdsA holdsB same
      rw [Place.getElem?_set_eq_some found] at atA atB
      rcases atA with ⟨rfl, rfl⟩ | ⟨_, atA⟩
      · rcases atB with ⟨rfl, rfl⟩ | ⟨_, atB⟩
        · exact absurd rfl different
        · cases (passage?_enter passage).symm.trans holdsA
          exact (isAlone_of_admits admitted atB holdsB same.symm).symm
      · rcases atB with ⟨rfl, rfl⟩ | ⟨_, atB⟩
        · cases (passage?_enter passage).symm.trans holdsB
          exact isAlone_of_admits admitted atA holdsA same
        · exact exclusive _ _ _ _ p q different atA atB holdsA holdsB same
  | draw passage rest found moved =>
      subst moved
      exact exclusive.set found rfl (fun _ holds => holds)
  | tell passage delivery pending rest found moved =>
      subst moved
      exact exclusive.set found rfl (fun _ holds => holds)
  | leave passage rest found moved =>
      subst moved
      exact exclusive.set found rfl (fun p holds => by cases holds)

/-- At each point, a thread alone in a gate is the only one on its stripe. -/
theorem exclusive_of_reachable {programs : List (List Passage)}
    (reachable : (machine stripe).Reachable (start programs) s) : s.Exclusive stripe := by
  refine reachable.invariant ?_ fun _ _ _ exclusive stepped =>
    exclusive.of_move (move_of_step stepped)
  intro a b t u p q _ atA _ holdsA
  obtain ⟨todo, _, rfl⟩ := List.mem_map.mp (List.mem_of_getElem? atA)
  cases holdsA

/-! ## The progress of one thread -/

/-- A passage of a thread through its gate, under the number that a batch has drawn. -/
structure Session where
  thread : Nat
  number : Nat
  passage : Passage
deriving DecidableEq

/-- All that the sink is told in a session. -/
def Session.events (x : Session) : List Told :=
  (x.passage.deliveries x.number).map (Told.mk x.thread x.passage)

/-- Where a thread stands in its current passage: what it has told of it, and whether it could still
have to do so. -/
inductive Midway (thread : Nat) : GateThread → List Passage → List Told → Prop where
  | outside (todo : List Passage) : Midway thread ⟨.outside, todo⟩ todo []
  | drawing {passage : Passage} (todo : List Passage) (alone : passage.isAlone = true) :
    Midway thread ⟨.drawing passage, todo⟩ (passage :: todo) []
  | telling {passage : Passage} {pending : List Delivery} (number : Nat) (done : List Delivery)
      (todo : List Passage) (split : passage.deliveries number = done ++ pending) :
    Midway thread ⟨.telling passage pending, todo⟩ (passage :: todo)
      (done.map (Told.mk thread passage))

/-- **Progress.** A thread has told some passages of its program completely, and the beginning of
the next. -/
def Progress (program : List Passage) (thread : Nat) (t : GateThread) (told : List Told) : Prop :=
  ∃ (sessions : List Session) (left : List Passage) (part : List Told),
    (∀ x ∈ sessions, x.thread = thread) ∧
    program = sessions.map Session.passage ++ left ∧
    told = sessions.flatMap Session.events ++ part ∧ Midway thread t left part

/-- What one thread has told. -/
def toldBy (s : GateState) (thread : Nat) : List Told :=
  s.told.filter fun e => e.thread = thread

/-- Every thread has made progress in its program. -/
def InProgress (programs : List (List Passage)) (s : GateState) : Prop :=
  ∀ thread t, s.threads[thread]? = some t →
    ∃ program, programs[thread]? = some program ∧
      Progress program thread t (s.toldBy thread)

private theorem InProgress.set {programs : List (List Passage)} (inProgress : s.InProgress programs)
    {old new : GateThread} (found : s.threads[thread]? = some old)
    (threads : s'.threads = s.threads.set thread new)
    (others : ∀ other, other ≠ thread → s'.toldBy other = s.toldBy other)
    (own : ∀ program, Progress program thread old (s.toldBy thread) →
      Progress program thread new (s'.toldBy thread)) : s'.InProgress programs := by
  intro other t atOther
  rw [threads, Place.getElem?_set_eq_some found] at atOther
  rcases atOther with ⟨rfl, rfl⟩ | ⟨different, atOther⟩
  · obtain ⟨program, given, progress⟩ := inProgress _ _ found
    exact ⟨program, given, own program progress⟩
  · obtain ⟨program, given, progress⟩ := inProgress _ _ atOther
    exact ⟨program, given, (others other different).symm ▸ progress⟩

private theorem InProgress.of_move {programs : List (List Passage)}
    (inProgress : s.InProgress programs)
    (move : Move stripe thread s s') : s'.InProgress programs := by
  cases move with
  | enter passage rest found admitted moved =>
      refine inProgress.set found (by rw [moved]) (fun _ _ => by rw [toldBy, moved]; rfl) ?_
      rintro program ⟨sessions, left, part, own, planned, told, midway⟩
      have same : s'.toldBy thread = s.toldBy thread := by rw [toldBy, moved, toldBy]
      rw [same]
      cases midway
      cases passage with
      | single labels point =>
          exact ⟨sessions, _, _, own, planned, told, .telling 0 [] rest rfl⟩
      | batch labels points => exact ⟨sessions, _, _, own, planned, told, .drawing rest rfl⟩
  | draw passage rest found moved =>
      refine inProgress.set found (by rw [moved]) (fun _ _ => by rw [toldBy, moved]; rfl) ?_
      rintro program ⟨sessions, left, part, own, planned, told, midway⟩
      have same : s'.toldBy thread = s.toldBy thread := by rw [toldBy, moved, toldBy]
      rw [same]
      cases midway
      exact ⟨sessions, _, _, own, planned, told, .telling s.nextBatch [] rest rfl⟩
  | tell passage delivery pending rest found moved =>
      refine inProgress.set found (by rw [moved]) (fun other different => ?_) ?_
      · rw [toldBy, moved, List.filter_append, toldBy]
        simp [Ne.symm different]
      · rintro program ⟨sessions, left, part, own, planned, told, midway⟩
        have more : s'.toldBy thread = s.toldBy thread ++ [⟨thread, passage, delivery⟩] := by
          rw [toldBy, moved, List.filter_append, toldBy]
          simp
        rw [more, told]
        cases midway with
        | telling number done _ split =>
            refine ⟨sessions, _, (done ++ [delivery]).map (Told.mk thread passage), own, planned,
              by simp, .telling number (done ++ [delivery]) rest (by simpa using split)⟩
  | leave passage rest found moved =>
      -- What the thread has told in the gate is a whole session now, and it is outside again.
      refine inProgress.set found (by rw [moved]) (fun _ _ => by rw [toldBy, moved]; rfl) ?_
      rintro program ⟨sessions, left, part, own, planned, told, midway⟩
      have same : s'.toldBy thread = s.toldBy thread := by rw [toldBy, moved, toldBy]
      rw [same]
      cases midway with
      | telling number done _ split =>
          rw [List.append_nil] at split
          refine ⟨sessions ++ [⟨thread, number, passage⟩], rest, [], ?_, ?_, ?_, .outside rest⟩
          · simpa [or_imp, forall_and] using own
          · simp [planned]
          · simp [told, Session.events, split]

/-- At each point, what each thread has told is what its program says up to where it is. -/
theorem inProgress_of_reachable {programs : List (List Passage)}
    (reachable : (machine stripe).Reachable (start programs) s) : s.InProgress programs := by
  refine reachable.invariant ?_ fun _ _ _ inProgress stepped =>
    inProgress.of_move (move_of_step stepped)
  intro thread t found
  obtain ⟨program, given, rfl⟩ := List.getElem?_map .. ▸ found |> Option.map_eq_some_iff.mp
  exact ⟨program, given, [], program, [], nofun, rfl, rfl, .outside program⟩

private theorem InProgress.mem_program {programs : List (List Passage)}
    (inProgress : s.InProgress programs)
    {passage : Passage} {pending : List Delivery} {rest : List Passage}
    (found : s.threads[thread]? = some ⟨.telling passage pending, rest⟩) :
    ∃ program, programs[thread]? = some program ∧ passage ∈ program := by
  obtain ⟨program, given, sessions, left, part, _, planned, _, midway⟩ := inProgress thread _ found
  refine ⟨program, given, ?_⟩
  cases midway
  rw [planned]
  exact List.mem_append_right _ List.mem_cons_self

/-- Whatever the sink is told belongs to a passage in the program of its thread. -/
theorem mem_program_of_reachable {programs : List (List Passage)}
    (reachable : (machine stripe).Reachable (start programs) s) {e : Told} (told : e ∈ s.told) :
    ∃ program, programs[e.thread]? = some program ∧ e.passage ∈ program := by
  induction reachable with
  | start => cases told
  | step thread reachable stepped ih =>
      cases move_of_step stepped with
      | enter passage rest found admitted moved => exact ih (by rwa [moved] at told)
      | draw passage rest found moved => exact ih (by rwa [moved] at told)
      | tell passage delivery pending rest found moved =>
          rw [moved] at told
          rcases List.mem_append.mp told with before | last
          · exact ih before
          · rw [List.mem_singleton.mp last]
            exact (inProgress_of_reachable reachable).mem_program found
      | leave passage rest found moved => exact ih (by rwa [moved] at told)

/-- The machine runs as many threads as there are programs. -/
theorem length_threads_of_reachable {programs : List (List Passage)}
    (reachable : (machine stripe).Reachable (start programs) s) :
    s.threads.length = programs.length := by
  refine reachable.invariant (P := fun s => s.threads.length = programs.length)
    (List.length_map _) fun _ _ _ same stepped => ?_
  cases move_of_step stepped with
  | enter _ _ _ _ moved | draw _ _ _ moved | tell _ _ _ _ _ moved | leave _ _ _ moved =>
      rw [moved]
      exact List.length_set.trans same

/-- A thread that is through has told all passages of its program completely and in order. -/
theorem InProgress.finished {programs : List (List Passage)} (inProgress : s.InProgress programs)
    (found : s.threads[thread]? = some ⟨.outside, []⟩) :
    ∃ sessions : List Session, (∀ x ∈ sessions, x.thread = thread) ∧
      programs[thread]? = some (sessions.map Session.passage) ∧
      s.toldBy thread = sessions.flatMap Session.events := by
  obtain ⟨program, given, sessions, left, part, own, planned, told, midway⟩ :=
    inProgress thread _ found
  cases midway
  rw [List.append_nil] at planned told
  exact ⟨sessions, own, planned ▸ given, told⟩

end Metering.Concurrent.GateState
