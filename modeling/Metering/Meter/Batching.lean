import Metering.Meter.Recording

/-!
# Recording batches

A batch recorder gathers values for distinct instruments of its meter. A value put again for an
instrument takes the place of the one before. Committing tells the sink of all entries between the
brackets of the batch's number, an empty batch included, and can be done once.
-/

namespace Metering

/-- Puts a value for the instrument at a place: in its entry if it has one, else at the end. -/
def putEntry (place : Nat) (value : Value) : List (Nat × Value) → List (Nat × Value)
  | [] => [(place, value)]
  | (other, held) :: rest =>
    if other = place then (place, value) :: rest else (other, held) :: putEntry place value rest

/-- An instrument offered to a batch: one of the same meter by its place, or one of another meter
by its name. -/
inductive Offer where
  | own (place : Nat)
  | foreign (name : String)
deriving DecidableEq

namespace Meter

/-- A new batch recorder; the answer is its place. -/
def openBatch (m : Meter) (labels : LabelSet) : Outcome Nat :=
  ⟨.ok m.batches.length, { m with batches := m.batches ++ [⟨labels, [], false⟩] }, []⟩

/-- Puts a value for an instrument into the batch at a place. It is checked first that the batch is
not spent, then that the instrument is one of the meter's, then the value. -/
def put (m : Meter) (batchPlace : Nat) (offer : Offer) (value : Value) : Outcome Unit :=
  match m.batches[batchPlace]? with
  | none => m.fail .absent
  | some batch =>
    if batch.spent then m.refuse (.batchSpent batch.labels.text)
    else
      match offer with
      | .foreign name => m.refuse (.foreignInstrument name m.name)
      | .own place =>
        match m.instruments[place]? with
        | none => m.fail .absent
        | some i =>
          match i.accept value with
          | .error e => m.fail e
          | .ok () =>
            ⟨.ok (), m.modifyBatch batchPlace fun batch =>
              { batch with entries := putEntry place value batch.entries }, []⟩

/-- The points of a batch: each entry under the labels of the batch, overridden by the constants of
its instrument. -/
def batchPoints (m : Meter) (batch : Batch) : List Point :=
  batch.entries.filterMap fun (place, value) =>
    m.instruments[place]?.map fun i => i.pointWith batch.labels value

/-- Commits the batch at a place under the next number. -/
def commit (m : Meter) (batchPlace : Nat) : Outcome Unit :=
  match m.batches[batchPlace]? with
  | none => m.fail .absent
  | some batch =>
    if batch.spent then m.refuse (.batchSpent batch.labels.text)
    else
      let points := m.batchPoints batch
      { answer := .ok ()
        meter :=
          { m.modifyBatch batchPlace (fun batch => { batch with spent := true }) with
            nextBatch := m.nextBatch + 1 }
        output :=
          [.passed m.nextBatch (.batch batch.labels points),
            .noted (.batchRecorded m.name batch.labels m.nextBatch points.length)] }

end Meter

end Metering
