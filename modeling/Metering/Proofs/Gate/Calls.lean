import Metering.Proofs.Meter.Requests
import Metering.Proofs.Place

/-! # Calls that reach the gates

Points are recorded directly, through bindings and by observers, and in batches. Whichever way is
taken, the gate is the one of the labels that the caller gave
(`Metering.Recording.labels?_of_mem_passages`).
-/

namespace Metering

/-- A call that brings something to a gate of a meter. An observation is made by the callback of the
observer at a place. -/
inductive Recording where
  | direct (place : Nat) (value : Value) (labels : LabelSet)
  | observed (place : Nat) (value : Value) (labels : LabelSet)
  | bound (place identity : Nat) (value : Value)
  | batch (place : Nat)

namespace Recording

def outcome (m : Meter) : Recording → Outcome Unit
  | .direct place value labels | .observed place value labels => m.record place value labels
  | .bound place identity value => m.recordBound place identity value
  | .batch place => m.commit place

/-- The labels that the caller gave: with the call, to the binding, or to the batch. -/
def labels? (m : Meter) : Recording → Option LabelSet
  | .direct _ _ labels | .observed _ _ labels => some labels
  | .bound place identity _ =>
    (m.instruments[place]?.bind fun i => i.bindings.made[identity]?).map Binding.labels
  | .batch place => m.batches[place]?.map Batch.labels

def passages (m : Meter) (call : Recording) : List Passage :=
  (call.outcome m).output.filterMap fun
    | .passed _ passage => some passage
    | .noted _ => none

/-- Whether a call is a batch that is committed. -/
def isCommitted (m : Meter) : Recording → Bool
  | .batch place => (m.commit place).answer.toOption.isSome
  | _ => false

/-- What a program of calls brings to the gates. Each call is made of the meter as it is then. -/
def passagesOf (program : List (Meter × Recording)) : List Passage :=
  program.flatMap fun (m, call) => call.passages m

/-- The batch at a place of a meter can be committed, and has these points: one for each entry, in
the order of the recorder, under the labels of the batch as overridden by the constants of the
instrument. An entry for no instrument of the meter has no point; no run leads to a recorder with
such an entry. -/
structure Commits (m : Meter) (place : Nat) (batch : Batch) (points : List Point) : Prop where
  held : m.batches[place]? = some batch
  unspent : batch.spent = false
  points_eq : points = batch.entries.filterMap fun (index, value) =>
    m.instruments[index]?.map fun i => i.pointWith batch.labels value
  every : (∀ entry ∈ batch.entries, m.instruments[entry.1]?.isSome) →
    points.map some = batch.entries.map fun (index, value) =>
      m.instruments[index]?.map fun i => i.pointWith batch.labels value

private theorem passages_record (m : Meter) (place : Nat) (value : Value) (labels : LabelSet) :
    (direct place value labels).passages m = [] ∨
    ∃ point, (direct place value labels).passages m = [.single labels point] := by
  rw [passages, outcome]
  rcases m.record_cases place value labels with ⟨e, failed, _⟩ | ⟨i, _, _, done⟩
  · exact Or.inl (by rw [failed]; rfl)
  · exact Or.inr ⟨_, by rw [done]; rfl⟩

private theorem passages_bound (m : Meter) (place identity : Nat) (value : Value) :
    (bound place identity value).passages m = [] ∨
    ∃ labels point, (bound place identity value).labels? m = some labels ∧
      (bound place identity value).passages m = [.single labels point] := by
  rw [passages, outcome]
  rcases m.recordBound_cases place identity value with
    ⟨e, failed, _⟩ | ⟨i, binding, found, made, _, _, done⟩
  · exact Or.inl (by rw [failed]; rfl)
  · refine Or.inr ⟨binding.labels, _, ?_, by rw [done]; rfl⟩
    rw [labels?, found, Option.bind_some, made, Option.map_some]

/-- A batch brings its points, in order, if it is committed. -/
theorem passages_batch (m : Meter) (place : Nat) :
    ((batch place).passages m = [] ∧ (batch place).isCommitted m = false) ∨
    ∃ held points, Commits m place held points ∧
      (batch place).passages m = [.batch held.labels points] ∧
        (batch place).isCommitted m = true := by
  rw [passages, outcome, isCommitted]
  rcases m.commit_cases place with ⟨e, failed, _⟩ | ⟨held, found, unspent, done⟩
  · exact Or.inl ⟨by rw [failed]; rfl, by rw [failed]; rfl⟩
  · refine Or.inr ⟨held, m.batchPoints held, ⟨found, unspent, rfl, fun stands => ?_⟩,
      by rw [done]; rfl, by rw [done]; rfl⟩
    refine Place.map_some_filterMap fun entry member => ?_
    rw [Option.isSome_map]
    exact stands entry member

/-- **Every path chooses the gate by the labels of the caller.** -/
theorem labels?_of_mem_passages {m : Meter} {call : Recording} {passage : Passage}
    (member : passage ∈ call.passages m) : call.labels? m = some passage.labels := by
  cases call with
  | direct place value labels | observed place value labels =>
      rcases passages_record m place value labels with none | ⟨point, one⟩
      · exact absurd (none ▸ member) List.not_mem_nil
      · cases List.mem_singleton.mp (one ▸ member)
        rfl
  | bound place identity value =>
      rcases passages_bound m place identity value with none | ⟨labels, point, given, one⟩
      · exact absurd (none ▸ member) List.not_mem_nil
      · cases List.mem_singleton.mp (one ▸ member)
        exact given
  | batch place =>
      rcases passages_batch m place with ⟨none, _⟩ | ⟨held, points, commits, one, _⟩
      · exact absurd (none ▸ member) List.not_mem_nil
      · cases List.mem_singleton.mp (one ▸ member)
        rw [labels?, commits.held]
        rfl

/-- What holds its gate alone is a batch of the meter, with the points of its entries in order. -/
theorem commits_of_mem_passages {m : Meter} {call : Recording} {labels : LabelSet}
    {points : List Point} (member : .batch labels points ∈ call.passages m) :
    ∃ place held, call = .batch place ∧ held.labels = labels ∧ Commits m place held points := by
  cases call with
  | direct place value labels | observed place value labels =>
      rcases passages_record m place value labels with none | ⟨point, one⟩
      · exact absurd (none ▸ member) List.not_mem_nil
      · cases List.mem_singleton.mp (one ▸ member)
  | bound place identity value =>
      rcases passages_bound m place identity value with none | ⟨labels, point, _, one⟩
      · exact absurd (none ▸ member) List.not_mem_nil
      · cases List.mem_singleton.mp (one ▸ member)
  | batch place =>
      rcases passages_batch m place with ⟨none, _⟩ | ⟨held, points, commits, one, _⟩
      · exact absurd (none ▸ member) List.not_mem_nil
      · cases List.mem_singleton.mp (one ▸ member)
        exact ⟨place, held, rfl, rfl, commits⟩

/-- Only a committed batch holds its gate alone. -/
theorem length_filter_passages (m : Meter) (call : Recording) :
    ((call.passages m).filter Passage.isAlone).length = if call.isCommitted m then 1 else 0 := by
  cases call with
  | direct place value labels | observed place value labels =>
      rcases passages_record m place value labels with none | ⟨point, one⟩
      · exact congrArg (fun l => (l.filter Passage.isAlone).length) none
      · exact congrArg (fun l => (l.filter Passage.isAlone).length) one
  | bound place identity value =>
      rcases passages_bound m place identity value with none | ⟨labels, point, given, one⟩
      · rw [none]; rfl
      · rw [one]; rfl
  | batch place =>
      rcases passages_batch m place with ⟨none, refused⟩ | ⟨held, points, _, one, committed⟩
      · rw [none, refused]; rfl
      · rw [one, committed]; rfl

/-- As many passages are alone as calls commit a batch. -/
theorem length_filter_passagesOf (programs : List (List (Meter × Recording))) :
    ((programs.map passagesOf).flatten.filter Passage.isAlone).length =
      programs.flatten.countP fun (m, call) => call.isCommitted m := by
  have one (program : List (Meter × Recording)) :
      ((passagesOf program).filter Passage.isAlone).length =
        program.countP fun (m, call) => call.isCommitted m := by
    induction program with
    | nil => rfl
    | cons head rest ih =>
        obtain ⟨m, call⟩ := head
        rw [passagesOf, List.flatMap_cons, ← passagesOf, List.filter_append, List.length_append,
          length_filter_passages, ih, List.countP_cons, Nat.add_comm]
  induction programs with
  | nil => rfl
  | cons program programs ih =>
      rw [List.map_cons, List.flatten_cons, List.filter_append, List.length_append, one, ih,
        List.flatten_cons, List.countP_append]

end Recording

end Metering
