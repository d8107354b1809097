import Metering.Proofs.Meter.Requests
import Metering.Workspace.Script

/-! # Label sets made by scripts

A script that makes a label set either gives it a name, or fails and leaves the workspace as it is.
It is refused only for a flat list with a last key that has no value, or for a mapping left out.
-/

namespace Metering

/-- A refusal to make a label set. -/
inductive Error.OfLabels : Error → Prop where
  | odd (texts : List String) (odd : texts.length % 2 ≠ 0) :
    OfLabels (.oddLabelSequence texts.length)
  | missing : OfLabels (.missingArgument "labels")

private theorem LabelSet.ofLabels_of_ofFlat {texts : List String} {error : Error}
    (refused : LabelSet.ofFlat texts = .error error) : error.OfLabels := by
  unfold ofFlat at refused
  split at refused
  · cases refused
  · next odd =>
      cases refused
      exact .odd texts odd

private theorem LabelSet.ofLabels_of_ofMapping {pairs : Option (List (String × String))}
    {error : Error}
    (refused : LabelSet.ofMapping pairs = .error error) : error.OfLabels := by
  cases pairs with
  | none =>
      cases refused
      exact .missing
  | some pairs => cases refused

namespace Script

variable {α β : Type}

/-- The answer of a script, and the workspace it leaves behind. -/
def exec (script : Script α) (w : Workspace) : Except Failure α × Workspace :=
  StateT.run (m := Id) (ExceptT.run script) w

/-- A script run on after another goes on from its workspace, unless it failed. -/
theorem exec_bind (script : Script α) (f : α → Script β) (w : Workspace) :
    (script >>= f).exec w = match script.exec w with
      | (.ok a, w') => (f a).exec w'
      | (.error e, w') => (.error e, w') := by
  have bound : (script >>= f).exec w = ExceptT.bindCont f (script.exec w).1 (script.exec w).2 := rfl
  rw [bound]
  obtain ⟨answer, after⟩ := script.exec w
  cases answer <;> rfl

private theorem exec_object (name : String) (w : Workspace) :
    (object name).exec w = (match w.names.lookup name with
      | none => .error .absent
      | some found => .ok found, w) := by
  have got : (get : Script Workspace).exec w = (.ok w, w) := rfl
  rw [object, exec_bind, got]
  change (need (w.names.lookup name)).exec w = _
  cases w.names.lookup name <;> rfl

/-- To ask for a meter changes nothing, whether it is there or not. -/
theorem exec_requireMeter (name : Option String) (w : Workspace) :
    (requireMeter name).exec w = (.ok (), w) ∨
      (requireMeter name).exec w = (.error .absent, w) := by
  cases name with
  | none => exact Or.inl rfl
  | some name =>
      rw [requireMeter, exec_bind, meter, exec_bind, exec_object]
      cases w.names.lookup name with
      | none => exact Or.inr rfl
      | some object =>
          cases object with
          | meter m => exact Or.inl rfl
          | sink _ | registry _ | labels _ | instrument _ | handle _ | batch _ => exact Or.inr rfl

private theorem exec_labelsFrom (source : LabelsSource) (w : Workspace) :
    (∃ set, (labelsFrom source).exec w = (.ok set, w)) ∨
    ∃ e, (labelsFrom source).exec w = (.error e, w) ∧ e.Within Error.OfLabels := by
  have checked (name : Option String) (result : Except Error LabelSet)
      (refusals : ∀ error, result = .error error → error.OfLabels) :
      (∃ set, (requireMeter name >>= fun _ => ofExcept result).exec w = (.ok set, w)) ∨
      ∃ e, (requireMeter name >>= fun _ => ofExcept result).exec w = (.error e, w) ∧
        e.Within Error.OfLabels := by
    rw [exec_bind]
    rcases exec_requireMeter name w with present | absent
    · rw [present]
      cases made : result with
      | ok set => exact Or.inl ⟨set, rfl⟩
      | error error =>
          exact Or.inr ⟨.refused error, rfl, Failure.within_refused (refusals error made)⟩
    · rw [absent]
      exact Or.inr ⟨.absent, rfl, Failure.within_absent⟩
  cases source with
  | nothing => exact Or.inl ⟨.empty, rfl⟩
  | flat name texts => exact checked name _ fun _ => LabelSet.ofLabels_of_ofFlat
  | mapping name pairs => exact checked name _ fun _ => LabelSet.ofLabels_of_ofMapping
  | pairs pairs => exact Or.inl ⟨LabelSet.ofList pairs, rfl⟩

/-- **Making a label set that is refused changes nothing.** -/
theorem exec_createLabels_failed {id : String} {source : LabelsSource} {w w' : Workspace}
    {e : Failure} (failed : (createLabels id source).exec w = (.error e, w')) :
    w' = w ∧ e.Within Error.OfLabels := by
  rw [createLabels, exec_bind] at failed
  rcases exec_labelsFrom source w with ⟨set, made⟩ | ⟨e', refused, within⟩
  · rw [made] at failed
    cases failed
  · rw [refused] at failed
    cases failed
    exact ⟨rfl, within⟩

end Script

end Metering
