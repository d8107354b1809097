import Metering.Concurrent.Workload
import Metering.Proofs.Gate.Steps

/-! # Sessions on a stripe

What the sink is told on one stripe, in whatever order the threads take their turns, is one session
after the other (`Metering.Concurrent.GateState.layout_of_reachable`): only the last can be
unfinished, and only if it is a batch. The numbers of the batches ascend along the stripe, since a
batch draws its number when nobody else is in its gate.
-/

namespace Metering.Concurrent.GateState

variable {stripe : LabelSet → Nat} {thread k : Nat} {s s' : GateState}

/-! ## The numbers of sessions -/

/-- The numbers of the batches among some sessions. -/
def numbersOf (sessions : List Session) : List Nat :=
  (sessions.filter fun x => x.passage.isAlone).map Session.number

/-- The numbers of the batches among some sessions ascend, and all were drawn before the next. -/
def Numbered (sessions : List Session) (next : Nat) : Prop :=
  (numbersOf sessions).Pairwise (· < ·) ∧ ∀ number ∈ numbersOf sessions, number < next

/-- The numbers of sessions come in the order of the sessions. -/
theorem numbersOf_append (first second : List Session) :
    numbersOf (first ++ second) = numbersOf first ++ numbersOf second := by
  simp only [numbersOf, List.filter_append, List.map_append]

/-- A session has a number if its passage is alone. -/
theorem numbersOf_singleton (x : Session) :
    numbersOf [x] = if x.passage.isAlone then [x.number] else [] := by
  cases alone : x.passage.isAlone <;> simp [numbersOf, alone]

private theorem Numbered.mono {sessions : List Session} {next later : Nat}
    (numbered : Numbered sessions next) (le : next ≤ later) : Numbered sessions later :=
  ⟨numbered.1, fun number member => Nat.lt_of_lt_of_le (numbered.2 number member) le⟩

private theorem Numbered.draw {sessions : List Session} {x : Session} {next : Nat}
    (numbered : Numbered sessions next) (alone : x.passage.isAlone = true)
    (drawn : x.number = next) : Numbered (sessions ++ [x]) (next + 1) := by
  have numbers : numbersOf (sessions ++ [x]) = numbersOf sessions ++ [next] := by
    rw [numbersOf_append, numbersOf_singleton, if_pos alone, drawn]
  refine ⟨?_, fun number member => ?_⟩
  · rw [numbers]
    refine List.pairwise_append.mpr ⟨numbered.1, List.pairwise_singleton .., ?_⟩
    intro number member last isLast
    rw [List.mem_singleton.mp isLast]
    exact numbered.2 number member
  · rw [numbers, List.mem_append, List.mem_singleton] at member
    rcases member with before | last
    · exact Nat.lt_succ_of_lt (numbered.2 number before)
    · rw [last]
      exact Nat.lt_succ_self next

private theorem Numbered.share {sessions : List Session} {x : Session} {next : Nat}
    (numbered : Numbered sessions next) (shared : x.passage.isAlone = false) :
    Numbered (sessions ++ [x]) next := by
  have numbers : numbersOf (sessions ++ [x]) = numbersOf sessions := by
    rw [numbersOf_append, numbersOf_singleton, shared, if_neg Bool.false_ne_true, List.append_nil]
  rw [Numbered, numbers]
  exact numbered

/-! ## What was told on a stripe -/

/-- What the sink was told on one stripe. -/
def onStripe (stripe : LabelSet → Nat) (k : Nat) (s : GateState) : List Told :=
  s.told.filter fun e => stripe e.passage.labels = k

/-- No thread is telling a batch on a stripe. -/
def Quiet (stripe : LabelSet → Nat) (k : Nat) (s : GateState) : Prop :=
  ∀ (a : Nat) (passage : Passage) (pending : List Delivery) (rest : List Passage),
    s.threads[a]? = some ⟨.telling passage pending, rest⟩ → stripe passage.labels = k →
      passage.isAlone = false

/-- **What was told on a stripe.** Complete sessions, and at the end the beginning of a batch if one
is being told. -/
inductive Layout (stripe : LabelSet → Nat) (k : Nat) (s : GateState) : Prop where
  | quiet (sessions : List Session) (quiet : s.Quiet stripe k)
      (told : s.onStripe stripe k = sessions.flatMap Session.events)
      (numbered : Numbered sessions s.nextBatch)
  | open (sessions : List Session) (x : Session) (done pending : List Delivery)
      (rest : List Passage)
      (holder : s.threads[x.thread]? = some ⟨.telling x.passage pending, rest⟩)
      (here : stripe x.passage.labels = k) (alone : x.passage.isAlone = true)
      (split : x.passage.deliveries x.number = done ++ pending)
      (told : s.onStripe stripe k =
        sessions.flatMap Session.events ++ done.map (Told.mk x.thread x.passage))
      (numbered : Numbered (sessions ++ [x]) s.nextBatch)

private theorem onStripe_concat {e : Told} (told : s'.told = s.told ++ [e]) :
    s'.onStripe stripe k =
      if stripe e.passage.labels = k then s.onStripe stripe k ++ [e] else s.onStripe stripe k := by
  rw [onStripe, told, List.filter_append, onStripe]
  by_cases here : stripe e.passage.labels = k <;> simp [here]

private theorem Exclusive.eq_holder (exclusive : s.Exclusive stripe)
    {x : Session} {t u : GateThread}
    {passage : Passage} (holder : s.threads[x.thread]? = some t)
    (holds : t.place.passage? = some x.passage) (alone : x.passage.isAlone = true)
    (found : s.threads[thread]? = some u) (inGate : u.place.passage? = some passage)
    (same : stripe passage.labels = stripe x.passage.labels) : thread = x.thread := by
  by_contra different
  have shared := (exclusive _ _ _ _ _ _ different found holder inGate holds same).2
  rw [alone] at shared
  cases shared

/-- A step keeps the layout of a stripe if it tells nothing there, and the thread neither begins nor
ends a batch there. -/
theorem Layout.of_other (layout : s.Layout stripe k) {old new : GateThread}
    (found : s.threads[thread]? = some old) (threads : s'.threads = s.threads.set thread new)
    (same : s'.onStripe stripe k = s.onStripe stripe k) (later : s.nextBatch ≤ s'.nextBatch)
    (before : ∀ passage pending rest, old = ⟨.telling passage pending, rest⟩ →
      stripe passage.labels = k → passage.isAlone = false)
    (after : ∀ passage pending rest, new = ⟨.telling passage pending, rest⟩ →
      stripe passage.labels = k → passage.isAlone = false) : s'.Layout stripe k := by
  cases layout with
  | quiet sessions quiet soFar numbered =>
      refine .quiet sessions ?_ (same.trans soFar) (numbered.mono later)
      intro a passage pending rest atA here
      rw [threads, Place.getElem?_set_eq_some found] at atA
      rcases atA with ⟨_, isNew⟩ | ⟨_, atA⟩
      · exact after passage pending rest isNew.symm here
      · exact quiet a passage pending rest atA here
  | «open» sessions x done pending rest holder here alone split soFar numbered =>
      refine .open sessions x done pending rest ?_ here alone split (same.trans soFar)
        (numbered.mono later)
      rw [threads, Place.getElem?_set_eq_some found]
      refine Or.inr ⟨?_, holder⟩
      intro isThread
      rw [isThread, found] at holder
      have shared := before x.passage pending rest (Option.some.inj holder) here
      rw [alone] at shared
      cases shared

/-- A batch that draws its number opens on its stripe, where nothing else is being told. -/
theorem Layout.of_draw (layout : s.Layout stripe k) (exclusive : s.Exclusive stripe)
    {passage : Passage} {rest : List Passage} (alone : passage.isAlone = true)
    (here : stripe passage.labels = k)
    (found : s.threads[thread]? = some ⟨.drawing passage, rest⟩)
    (threads : s'.threads =
      s.threads.set thread ⟨.telling passage (passage.deliveries s.nextBatch), rest⟩)
    (numbers : s'.nextBatch = s.nextBatch + 1) (told : s'.told = s.told) :
    s'.Layout stripe k := by
  have same : s'.onStripe stripe k = s.onStripe stripe k := by rw [onStripe, told, onStripe]
  cases layout with
  | quiet sessions quiet soFar numbered =>
      refine .open sessions ⟨thread, s.nextBatch, passage⟩ [] (passage.deliveries s.nextBatch) rest
        ?_ here alone rfl ?_ ?_
      · rw [threads, Place.getElem?_set_eq_some found]
        exact Or.inl ⟨rfl, rfl⟩
      · rw [same, soFar, List.map_nil, List.append_nil]
      · rw [numbers]
        exact numbered.draw alone rfl
  | «open» sessions x done pending rest' holder here' alone' split soFar numbered =>
      have isThread := exclusive.eq_holder holder rfl alone' found rfl (here.trans here'.symm)
      rw [isThread, holder] at found
      cases found

/-- What is told on a stripe continues its open batch, or else is a single point. -/
theorem Layout.of_tell (layout : s.Layout stripe k) (exclusive : s.Exclusive stripe)
    {passage : Passage} {delivery : Delivery} {pending : List Delivery} {rest : List Passage}
    (single : passage.isAlone = false → passage.deliveries 0 = [delivery])
    (here : stripe passage.labels = k)
    (found : s.threads[thread]? = some ⟨.telling passage (delivery :: pending), rest⟩)
    (threads : s'.threads = s.threads.set thread ⟨.telling passage pending, rest⟩)
    (numbers : s'.nextBatch = s.nextBatch)
    (told : s'.told = s.told ++ [⟨thread, passage, delivery⟩]) : s'.Layout stripe k := by
  have more : s'.onStripe stripe k = s.onStripe stripe k ++ [⟨thread, passage, delivery⟩] := by
    rw [onStripe_concat told, if_pos here]
  cases layout with
  | quiet sessions quiet soFar numbered =>
      have shared := quiet thread passage (delivery :: pending) rest found here
      refine .quiet (sessions ++ [⟨thread, 0, passage⟩]) ?_ ?_ ?_
      · intro a other pending' rest' atA here'
        rw [threads, Place.getElem?_set_eq_some found] at atA
        rcases atA with ⟨_, isNew⟩ | ⟨_, atA⟩
        · cases isNew
          exact shared
        · exact quiet a other pending' rest' atA here'
      · rw [more, soFar, List.flatMap_append, List.flatMap_singleton, Session.events, single shared,
          List.map_singleton]
      · rw [numbers]
        exact numbered.share shared
  | «open» sessions x done pending' rest' holder here' alone split soFar numbered =>
      have isThread := exclusive.eq_holder holder rfl alone found rfl (here.trans here'.symm)
      subst isThread
      cases holder.symm.trans found
      refine .open sessions x (done ++ [delivery]) pending rest ?_ here' alone ?_ ?_ ?_
      · rw [threads, Place.getElem?_set_eq_some found]
        exact Or.inl ⟨rfl, rfl⟩
      · rw [split, List.append_assoc, List.singleton_append]
      · rw [more, soFar, List.map_append, List.map_singleton, List.append_assoc]
      · rw [numbers]
        exact numbered

private theorem Layout.of_leave (layout : s.Layout stripe k) (exclusive : s.Exclusive stripe)
    {passage : Passage} {rest : List Passage}
    (found : s.threads[thread]? = some ⟨.telling passage [], rest⟩)
    (threads : s'.threads = s.threads.set thread ⟨.outside, rest⟩)
    (numbers : s'.nextBatch = s.nextBatch) (told : s'.told = s.told) : s'.Layout stripe k := by
  have same : s'.onStripe stripe k = s.onStripe stripe k := by rw [onStripe, told, onStripe]
  by_cases batchHere : stripe passage.labels = k ∧ passage.isAlone = true
  · obtain ⟨here, alone⟩ := batchHere
    cases layout with
    | quiet sessions quiet soFar numbered =>
        have shared := quiet thread passage [] rest found here
        rw [alone] at shared
        cases shared
    | «open» sessions x done pending rest' holder here' alone' split soFar numbered =>
        have isThread := exclusive.eq_holder holder rfl alone' found rfl (here.trans here'.symm)
        subst isThread
        cases holder.symm.trans found
        rw [List.append_nil] at split
        refine .quiet (sessions ++ [x]) ?_ ?_ (numbers ▸ numbered)
        · intro a other pending rest' atA elsewhere
          rw [threads, Place.getElem?_set_eq_some found] at atA
          rcases atA with ⟨_, isNew⟩ | ⟨different, atA⟩
          · cases isNew
          · exact absurd (exclusive.eq_holder holder rfl alone atA rfl
              (elsewhere.trans here.symm)) different
        · rw [same, soFar, List.flatMap_append, List.flatMap_singleton, Session.events, split]
  · apply layout.of_other found threads same (Nat.le_of_eq numbers.symm)
    · intro _ _ _ isOld here
      cases isOld
      exact Bool.eq_false_iff.mpr fun alone => batchHere ⟨here, alone⟩
    · intro _ _ _ isNew
      cases isNew

/-- Only a thread whose passage is alone draws a number. -/
theorem InProgress.isAlone_of_drawing {programs : List (List Passage)}
    (inProgress : s.InProgress programs) {passage : Passage} {rest : List Passage}
    (found : s.threads[thread]? = some ⟨.drawing passage, rest⟩) : passage.isAlone = true := by
  obtain ⟨_, _, _, _, _, _, _, _, midway⟩ := inProgress thread _ found
  cases midway with
  | drawing _ alone => exact alone

/-- A point alone in its passage is all that its thread tells there. -/
theorem InProgress.deliveries_of_telling {programs : List (List Passage)}
    (inProgress : s.InProgress programs) {passage : Passage} {delivery : Delivery}
    {pending : List Delivery} {rest : List Passage}
    (found : s.threads[thread]? = some ⟨.telling passage (delivery :: pending), rest⟩)
    (shared : passage.isAlone = false) : passage.deliveries 0 = [delivery] := by
  obtain ⟨_, _, _, _, _, _, _, _, midway⟩ := inProgress thread _ found
  cases midway with
  | telling number done _ split =>
      cases passage with
      | batch labels points => cases shared
      | single labels point =>
          rw [Passage.deliveries] at split
          cases done with
          | nil => exact congrArg (List.take 1) split
          | cons first done => exact absurd split (by simp)

private theorem Layout.of_move {programs : List (List Passage)} (layout : s.Layout stripe k)
    (exclusive : s.Exclusive stripe) (inProgress : s.InProgress programs)
    (move : Move stripe thread s s') : s'.Layout stripe k := by
  cases move with
  | enter passage rest found admitted moved =>
      subst moved
      refine layout.of_other found rfl rfl (Nat.le_refl _) ?_ ?_
      · intro _ _ _ isOld
        cases isOld
      · intro other pending rest' isNew here
        cases passage with
        | single labels point =>
            cases isNew
            rfl
        | batch labels points => cases isNew
  | draw passage rest found moved =>
      subst moved
      by_cases here : stripe passage.labels = k
      · exact layout.of_draw exclusive (inProgress.isAlone_of_drawing found) here found rfl rfl rfl
      · refine layout.of_other found rfl rfl (Nat.le_succ _) ?_ ?_
        · intro _ _ _ isOld
          cases isOld
        · intro _ _ _ isNew here'
          cases isNew
          exact absurd here' here
  | tell passage delivery pending rest found moved =>
      subst moved
      by_cases here : stripe passage.labels = k
      · exact layout.of_tell exclusive (inProgress.deliveries_of_telling found) here found rfl rfl
          rfl
      · refine layout.of_other found rfl ((onStripe_concat rfl).trans (if_neg here))
          (Nat.le_refl _) ?_ ?_
        · intro _ _ _ isOld here'
          cases isOld
          exact absurd here' here
        · intro _ _ _ isNew here'
          cases isNew
          exact absurd here' here
  | leave passage rest found moved =>
      subst moved
      exact layout.of_leave exclusive found rfl rfl rfl

/-- **One session after the other.** In every reachable state, what the sink was told on a stripe is
a sequence of complete sessions, and at most the beginning of a batch after them. -/
theorem layout_of_reachable {programs : List (List Passage)}
    (reachable : (machine stripe).Reachable (start programs) s) : s.Layout stripe k := by
  induction reachable with
  | start =>
      refine .quiet [] ?_ rfl ⟨.nil, nofun⟩
      intro a passage pending rest atA
      obtain ⟨todo, _, started⟩ := List.mem_map.mp (List.mem_of_getElem? atA)
      cases started
  | step thread reachable stepped ih =>
      exact ih.of_move (exclusive_of_reachable reachable) (inProgress_of_reachable reachable)
        (move_of_step stepped)

/-! ## Brackets among sessions -/

/-- An entry of joined blocks is an entry of one of them. -/
theorem exists_block {α β : Type} {f : α → List β} {l : List α} {before later : List β} {e : β}
    (joined : l.flatMap f = before ++ e :: later) :
    ∃ (first : List α) (x : α) (last : List α) (opening closing : List β),
      f x = opening ++ e :: closing ∧ before = first.flatMap f ++ opening ∧
      later = closing ++ last.flatMap f := by
  induction l generalizing before with
  | nil => exact absurd joined (by simp)
  | cons x rest ih =>
      rw [List.flatMap_cons] at joined
      rcases List.append_eq_append_iff.mp joined with
        ⟨between, split, tail⟩ | ⟨between, split, tail⟩
      · obtain ⟨first, y, last, opening, closing, block, front, back⟩ := ih tail
        refine ⟨x :: first, y, last, opening, closing, block, ?_, back⟩
        rw [split, front, List.flatMap_cons, List.append_assoc]
      · cases between with
        | nil =>
            have atHead : rest.flatMap f = [] ++ e :: later := tail.symm
            obtain ⟨first, y, last, opening, closing, block, front, back⟩ := ih atHead
            refine ⟨x :: first, y, last, opening, closing, block, ?_, back⟩
            rw [List.flatMap_cons, List.append_assoc, ← front, split, List.append_nil,
              List.append_nil]
        | cons head between =>
            rw [List.cons_append] at tail
            obtain ⟨rfl, remaining⟩ := List.cons.inj tail
            exact ⟨[], x, rest, before, between, split, rfl, remaining⟩

/-- With what is still to come of an open batch, what was told on a stripe is its sessions. -/
theorem Layout.exists_sessions (layout : s.Layout stripe k) :
    ∃ sessions pending, s.onStripe stripe k ++ pending = sessions.flatMap Session.events ∧
      Numbered sessions s.nextBatch := by
  cases layout with
  | quiet sessions quiet soFar numbered =>
      exact ⟨sessions, [], (List.append_nil _).trans soFar, numbered⟩
  | «open» sessions x done pending rest holder here alone split soFar numbered =>
      refine ⟨sessions ++ [x], pending.map (Told.mk x.thread x.passage), ?_, numbered⟩
      rw [soFar, List.append_assoc, ← List.map_append, ← split, List.flatMap_append,
        List.flatMap_singleton, Session.events]

end Metering.Concurrent.GateState
