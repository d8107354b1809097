import Metering.Concurrent.Installs

/-! # Racing installations

Of callers that race to install, the first to set the receiver wins: it alone returns without an
error, and the receiver and the memory stem from it for good. A caller that fails a check has
changed nothing. A caller that passed both checks before the receiver was set, and is then refused,
has set the provider, which is not set back: so the provider may stem from such a caller instead of
the winner, but from no caller that began later
(`Metering.Concurrent.InstallState.firstWins_of_reachable`,
`Metering.Concurrent.InstallState.not_allOrNothing`).
-/

namespace Metering.Concurrent

open Metering.Telemetry

namespace InstallState

variable {s s' : InstallState} {caller : Nat}

/-! ## What a caller has done -/

/-- A caller has changed none of the places. -/
def Untouched (s : InstallState) (caller : Nat) : Prop :=
  ∀ t ∈ s.turns, t.caller = caller → t.after = t.before

/-- A caller has set the provider, and changed nothing else. -/
structure OnlyProvided (s : InstallState) (caller : Nat) : Prop where
  only : ∀ t ∈ s.turns, t.caller = caller →
    t.after = t.before ∨ t.after = { t.before with provider := some caller }
  provided : ∃ t ∈ s.turns, t.caller = caller ∧ t.after.provider = some caller

/-- A caller had a turn at a stage, and found the places so. -/
def Found (turns : List InstallTurn) (caller : Nat) (stage : InstallStage)
    (places : Installation → Prop) : Prop :=
  ∃ t ∈ turns, t.caller = caller ∧ t.stage = .installing stage ∧ places t.before

/-- A caller passed both checks: it found the memory empty, at a time at which the receiver was not
set, and the place of the receiver empty after that. -/
structure Passed (turns : List InstallTurn) (caller : Nat) : Prop where
  memory : Found turns caller .readMemory fun p => p.memory = none ∧ p.receiver = none
  receiver : Found turns caller .readReceiver fun p => p.receiver = none

/-- The receiver was set at one of the turns, after some turns and before others, and has stayed. -/
structure ReceiverSet (s : InstallState) (earlier : List InstallTurn) (t : InstallTurn)
    (later : List InstallTurn) : Prop where
  turns : s.turns = earlier ++ t :: later
  stage : t.stage = .installing .setReceiver ∨ t.stage = .setting none
  before : t.before.receiver = none
  after : t.after.receiver = s.places.receiver ∧ s.places.receiver.isSome
  since : ∀ t' ∈ later, t'.before.receiver = s.places.receiver

/-- A caller passed both checks before the receiver was set. -/
def InTime (s : InstallState) (caller : Nat) : Prop :=
  ∃ earlier t later, s.ReceiverSet earlier t later ∧ Passed earlier caller

/-- A caller is refused the receiver, or will be at its next turn. -/
def Overruled (s : InstallState) (caller : Nat) : Prop :=
  s.answer? caller = some (.error .receiverRefused) ∨ ∃ next, machine.step caller s = some next ∧
    next.answer? caller = some (.error .receiverRefused)

/-- A caller has set the provider and has not set the receiver: it is about to try, or was
refused. -/
def Unreceived (s : InstallState) (caller : Nat) : Prop :=
  s.callers[caller]? = some (.installing .setReceiver) ∨
    s.answer? caller = some (.error .receiverRefused)

/-! ## Steps -/

/-- **What a turn of a caller does.** -/
inductive Advance (p : Installation) (caller : Nat) :
    InstallCaller → InstallCaller → Installation → Prop where
  | remembered (filled : p.memory.isSome) : Advance p caller (.installing .readMemory)
      (.installing (.ended (.error .alreadyInstalled))) p
  | unremembered (vacant : p.memory = none) : Advance p caller (.installing .readMemory)
      (.installing .readReceiver) p
  | occupied (taken : p.receiver.isSome) : Advance p caller (.installing .readReceiver)
      (.installing (.ended (.error .receiverPresent))) p
  | unoccupied (vacant : p.receiver = none) : Advance p caller (.installing .readReceiver)
      (.installing .setProvider) p
  | provided : Advance p caller (.installing .setProvider) (.installing .setReceiver)
      { p with provider := some caller }
  | received (vacant : p.receiver = none) : Advance p caller (.installing .setReceiver)
      (.installing .remember) { p with receiver := some (.installed caller) }
  | refused (taken : p.receiver.isSome) : Advance p caller (.installing .setReceiver)
      (.installing (.ended (.error .receiverRefused))) p
  | late (taken : p.memory.isSome) : Advance p caller (.installing .remember)
      (.installing (.ended (.error .alreadyInstalled))) p
  | done (vacant : p.memory = none) : Advance p caller (.installing .remember)
      (.installing (.ended (.ok ()))) { p with memory := some caller }
  | set (vacant : p.receiver = none) : Advance p caller (.setting none)
      (.setting (some (.ok ()))) { p with receiver := some .foreign }
  | unset (taken : p.receiver.isSome) : Advance p caller (.setting none)
      (.setting (some (.error .receiverRefused))) p

private theorem advance_installing (p : Installation) (caller : Nat) {stage : InstallStage}
    (running : ∀ answer, stage ≠ .ended answer) :
    Advance p caller (.installing stage) (.installing (p.step caller stage).1)
      (p.step caller stage).2 := by
  cases stage with
  | readMemory =>
      rw [Installation.step]
      cases memory : p.memory with
      | none => exact .unremembered memory
      | some c => exact .remembered (by rw [memory]; rfl)
  | readReceiver =>
      rw [Installation.step]
      cases receiver : p.receiver with
      | none => exact .unoccupied receiver
      | some r => exact .occupied (by rw [receiver]; rfl)
  | setProvider => exact .provided
  | setReceiver =>
      rw [Installation.step, Installation.fill]
      cases receiver : p.receiver with
      | none => exact .received receiver
      | some r => exact .refused (by rw [receiver]; rfl)
  | remember =>
      rw [Installation.step]
      cases memory : p.memory with
      | none => exact .done memory
      | some r => exact .late (by rw [memory]; rfl)
  | ended answer => exact absurd rfl (running answer)

private theorem advance_of_step (stepped : machine.step caller s = some s') :
    ∃ before after places, s.callers[caller]? = some before ∧
      Advance s.places caller before after places ∧
        s' = s.proceed caller before after places := by
  change step caller s = some s' at stepped
  unfold step at stepped
  split at stepped
  · cases stepped
  · cases stepped
  · cases stepped
  · next stage running found =>
      exact ⟨_, _, _, found, advance_installing s.places caller running,
        (Option.some.inj stepped).symm⟩
  · next found =>
      refine ⟨_, _, _, found, ?_, (Option.some.inj stepped).symm⟩
      cases receiver : s.places.receiver with
      | none => exact .set receiver
      | some r => exact .unset (by rw [receiver]; rfl)

/-! ## Consistency -/

/-- What is known of a caller by its stage. -/
def Fits (s : InstallState) (caller : Nat) : InstallCaller → Prop
  | .installing .readMemory => s.Untouched caller
  | .installing .readReceiver =>
    s.Untouched caller ∧ Found s.turns caller .readMemory fun p => p.memory = none
  | .installing .setProvider => s.Untouched caller ∧ Passed s.turns caller
  | .installing .setReceiver => s.OnlyProvided caller ∧ Passed s.turns caller
  | .installing .remember =>
    s.places.receiver = some (.installed caller) ∧ Passed s.turns caller
  | .installing (.ended (.ok ())) =>
    s.places.receiver = some (.installed caller) ∧ s.places.memory = some caller ∧
      Passed s.turns caller
  | .installing (.ended (.error .receiverRefused)) =>
    s.OnlyProvided caller ∧ s.places.receiver.isSome ∧ Passed s.turns caller
  | .installing (.ended (.error .alreadyInstalled)) =>
    s.Untouched caller ∧ Found s.turns caller .readMemory fun p => p.memory.isSome
  | .installing (.ended (.error .receiverPresent)) =>
    s.Untouched caller ∧ Found s.turns caller .readReceiver fun p => p.receiver.isSome
  | .setting _ => True

/-- Callers fit their stages, and what stands in a place was put there by a caller at a stage at
which it has done so. -/
structure Consistent (s : InstallState) : Prop where
  fits : ∀ c caller, s.callers[c]? = some caller → s.Fits c caller
  receiver : ∀ c, s.places.receiver = some (.installed c) →
    s.callers[c]? = some (.installing .remember) ∨ s.answer? c = some (.ok ())
  memory : ∀ c, s.places.memory = some c → s.answer? c = some (.ok ())
  provider : ∀ c, s.places.provider = some c → s.Unreceived c ∨
    s.places.receiver = some (.installed c)
  provided : ∀ c, s.callers[c]? = some (.installing .setReceiver) ∨
    s.places.receiver = some (.installed c) → s.places.provider.isSome
  unset : s.places.receiver = none → ∀ t ∈ s.turns, t.before.receiver = none
  set : s.places.receiver.isSome → ∃ earlier t later, s.ReceiverSet earlier t later

/-- Callers that are about to begin, in a process with nothing in its places, are consistent. -/
theorem consistent_start (installing setting : Nat) : (start installing setting).Consistent where
  fits c caller found := by
    rcases List.mem_append.mp (List.mem_of_getElem? found) with installs | sets
    · rw [List.eq_of_mem_replicate installs]
      exact fun _ none => absurd none List.not_mem_nil
    · rw [List.eq_of_mem_replicate sets]
      trivial
  receiver _ none := by cases none
  memory _ none := by cases none
  provider _ none := by cases none
  provided c set := by
    rcases set with found | none
    · rcases List.mem_append.mp (List.mem_of_getElem? found) with installs | sets
      · cases List.eq_of_mem_replicate installs
      · cases List.eq_of_mem_replicate sets
    · cases none
  unset _ _ none := absurd none List.not_mem_nil
  set none := by cases none

/-- What stands in the places of the receiver and the memory stays, and the provider's is not
emptied. -/
structure Kept (p p' : Installation) : Prop where
  receiver : ∀ r, p.receiver = some r → p'.receiver = some r
  memory : ∀ c, p.memory = some c → p'.memory = some c
  provider : p.provider.isSome → p'.provider.isSome

/-- No turn empties a place, or fills that of the receiver or the memory anew. -/
theorem Advance.kept {p p' : Installation} {before after : InstallCaller}
    (advance : Advance p caller before after p') : Kept p p' := by
  cases advance with
  | remembered | unremembered | occupied | unoccupied | refused | late | unset =>
      exact ⟨fun _ => id, fun _ => id, id⟩
  | provided => exact ⟨fun _ => id, fun _ => id, fun _ => rfl⟩
  | received vacant | set vacant =>
      exact ⟨fun _ found => (by cases vacant.symm.trans found), fun _ => id, id⟩
  | done vacant => exact ⟨fun _ => id, fun _ found => (by cases vacant.symm.trans found), id⟩

/-! ### Facts about the turns taken -/

section Turns

variable {c : Nat} (stage next : InstallCaller) (places : Installation)

private theorem Untouched.proceed (untouched : s.Untouched c)
    (same : caller = c → places = s.places) :
    (s.proceed caller stage next places).Untouched c := by
  intro t member isCaller
  rcases List.mem_append.mp member with before | now
  · exact untouched t before isCaller
  · cases List.mem_singleton.mp now
    exact same isCaller

private theorem OnlyProvided.proceed (provided : s.OnlyProvided c)
    (same : caller = c → places = s.places) :
    (s.proceed caller stage next places).OnlyProvided c := by
  refine ⟨fun t member isCaller => ?_, ?_⟩
  · rcases List.mem_append.mp member with before | now
    · exact provided.only t before isCaller
    · cases List.mem_singleton.mp now
      exact Or.inl (same isCaller)
  · obtain ⟨t, member, set⟩ := provided.provided
    exact ⟨t, List.mem_append_left _ member, set⟩

variable {turns : List InstallTurn} {read : InstallStage} {found : Installation → Prop}

private theorem Found.append (was : Found turns c read found) (more : List InstallTurn) :
    Found (turns ++ more) c read found := by
  obtain ⟨t, member, fact⟩ := was
  exact ⟨t, List.mem_append_left _ member, fact⟩

private theorem Passed.append (passed : Passed turns c) (more : List InstallTurn) :
    Passed (turns ++ more) c :=
  ⟨passed.memory.append more, passed.receiver.append more⟩

private theorem found_proceed (holds : found s.places) :
    Found (s.proceed caller (.installing read) next places).turns caller read found :=
  ⟨_, List.mem_append_right _ (List.mem_singleton_self _), rfl, rfl, holds⟩

/-- A check that found the receiver not set was made before the receiver was set. -/
theorem ReceiverSet.found_earlier {earlier later : List InstallTurn} {t : InstallTurn}
    (set : s.ReceiverSet earlier t later) (was : Found s.turns c read found)
    (checks : read = .readMemory ∨ read = .readReceiver)
    (vacant : ∀ p, found p → p.receiver = none) : Found earlier c read found := by
  obtain ⟨t', member, isCaller, isStage, holds⟩ := was
  rw [set.turns] at member
  rcases List.mem_append.mp member with before | after
  · exact ⟨t', before, isCaller, isStage, holds⟩
  · rcases List.mem_cons.mp after with rfl | later
    · rcases set.stage with sets | sets <;> rw [sets] at isStage
      · rcases checks with rfl | rfl <;> cases isStage
      · cases isStage
    · have there := set.after.2
      rw [← set.since t' later, vacant _ holds] at there
      cases there

end Turns

/-- A caller that has no turn still fits. -/
private theorem Fits.other {c : Nat} {stage other next : InstallCaller} {places : Installation}
    (fits : s.Fits c other) (kept : Kept s.places places) (different : caller ≠ c) :
    (s.proceed caller stage next places).Fits c other := by
  have untouched (was : s.Untouched c) :=
    was.proceed stage next places fun same => absurd same different
  have provided (was : s.OnlyProvided c) :=
    was.proceed stage next places fun same => absurd same different
  match other with
  | .installing .readMemory => exact untouched fits
  | .installing .readReceiver | .installing (.ended (.error .alreadyInstalled))
  | .installing (.ended (.error .receiverPresent)) =>
      exact ⟨untouched fits.1, fits.2.append _⟩
  | .installing .setProvider => exact ⟨untouched fits.1, fits.2.append _⟩
  | .installing .setReceiver => exact ⟨provided fits.1, fits.2.append _⟩
  | .installing (.ended (.error .receiverRefused)) =>
      obtain ⟨r, there⟩ := Option.isSome_iff_exists.mp fits.2.1
      exact ⟨provided fits.1, by rw [proceed, kept.receiver r there]; rfl, fits.2.2.append _⟩
  | .installing .remember => exact ⟨kept.receiver _ fits.1, fits.2.append _⟩
  | .installing (.ended (.ok ())) =>
      exact ⟨kept.receiver _ fits.1, kept.memory _ fits.2.1, fits.2.2.append _⟩
  | .setting _ => trivial

/-- The answer of a call is that which it has ended with. -/
theorem answer?_eq_some {c : Nat} {answer : Except InstallError Unit} :
    s.answer? c = some answer ↔ s.callers[c]? = some (.installing (.ended answer)) := by
  rw [answer?]
  constructor
  · intro answered
    split at answered
    · next found => rw [found, Option.some.inj answered]
    · cases answered
  · intro found
    rw [found]

/-! ### What a turn keeps -/

section Proceed

variable {before after : InstallCaller} {places : Installation}

private theorem callers_proceed (found : s.callers[caller]? = some before)
    (stage after : InstallCaller) (places : Installation) (c : Nat) :
    (s.proceed caller stage after places).callers[c]? =
      if c = caller then some after else s.callers[c]? := by
  rw [proceed]
  by_cases same : c = caller
  · rw [if_pos same, same]
    exact List.getElem?_set_self (List.getElem?_eq_some_iff.mp found).1
  · rw [if_neg same]
    exact List.getElem?_set_ne (Ne.symm same)

private theorem callers_mover (found : s.callers[caller]? = some before) :
    (s.proceed caller before after places).callers[caller]? = some after := by
  rw [callers_proceed found, if_pos rfl]

/-- What others have answered and where they stand is as before. -/
private theorem callers_others (found : s.callers[caller]? = some before) {c : Nat}
    {stage : InstallCaller} (standing : s.callers[c]? = some stage) (different : stage ≠ before) :
    (s.proceed caller before after places).callers[c]? = some stage := by
  rw [callers_proceed found, if_neg, standing]
  rintro rfl
  exact different (Option.some.inj (standing.symm.trans found))

variable (consistent : s.Consistent) (found : s.callers[caller]? = some before)

include consistent found

/-- No caller has installed before one that is about to remember. -/
private theorem Consistent.memory_eq_none (waits : before = .installing .remember) :
    s.places.memory = none := by
  subst waits
  cases memory : s.places.memory with
  | none => rfl
  | some c =>
      have ended := answer?_eq_some.mp (consistent.memory c memory)
      have mine := (consistent.fits c _ ended).1
      rw [(consistent.fits caller _ found).1] at mine
      cases mine
      cases found.symm.trans ended

variable (advance : Advance s.places caller before after places)

include advance

/-- The caller that had its turn fits. -/
private theorem Consistent.fits_proceed :
    (s.proceed caller before after places).Fits caller after := by
  have fits := consistent.fits caller before found
  cases advance with
  | remembered filled => exact ⟨fits.proceed _ _ _ fun _ => rfl, found_proceed _ _ filled⟩
  | unremembered vacant => exact ⟨fits.proceed _ _ _ fun _ => rfl, found_proceed _ _ vacant⟩
  | occupied taken => exact ⟨fits.1.proceed _ _ _ fun _ => rfl, found_proceed _ _ taken⟩
  | unoccupied vacant =>
      -- The receiver is not set, so that it was not set when the memory was read either.
      obtain ⟨t, member, isCaller, isStage, empty⟩ := fits.2
      have memory : Found s.turns caller .readMemory
          fun p => p.memory = none ∧ p.receiver = none :=
        ⟨t, member, isCaller, isStage, empty, consistent.unset vacant t member⟩
      exact ⟨fits.1.proceed _ _ _ fun _ => rfl, memory.append _, found_proceed _ _ vacant⟩
  | refused taken => exact ⟨fits.1.proceed _ _ _ fun _ => rfl, taken, fits.2.append _⟩
  | received => exact ⟨rfl, fits.2.append _⟩
  | done => exact ⟨fits.1, rfl, fits.2.append _⟩
  | late taken =>
      rw [consistent.memory_eq_none found rfl] at taken
      cases taken
  | set | unset => trivial
  | provided =>
      refine ⟨⟨fun t member isCaller => ?_, ?_⟩, fits.2.append _⟩
      · rcases List.mem_append.mp member with earlier | now
        · exact Or.inl (fits.1 t earlier isCaller)
        · cases List.mem_singleton.mp now
          exact Or.inr rfl
      · exact ⟨_, List.mem_append_right _ (List.mem_singleton_self _), rfl, rfl⟩

private theorem Consistent.receiver_proceed {c : Nat}
    (holds : places.receiver = some (.installed c)) :
    (s.proceed caller before after places).callers[c]? = some (.installing .remember) ∨
      (s.proceed caller before after places).answer? c = some (.ok ()) := by
  have still (waiting : before ≠ .installing .remember)
      (was : s.places.receiver = some (.installed c)) :
      (s.proceed caller before after places).callers[c]? = some (.installing .remember) ∨
        (s.proceed caller before after places).answer? c = some (.ok ()) := by
    rcases consistent.receiver c was with waits | answered
    · exact Or.inl (callers_others found waits waiting.symm)
    · refine Or.inr (answer?_eq_some.mpr (callers_others found (answer?_eq_some.mp answered) ?_))
      rintro rfl
      cases advance
  cases advance with
  | received =>
      cases holds
      exact Or.inl (callers_mover found)
  | set => cases holds
  | late taken =>
      rw [consistent.memory_eq_none found rfl] at taken
      cases taken
  | done =>
      rw [(consistent.fits caller _ found).1] at holds
      cases holds
      exact Or.inr (answer?_eq_some.mpr (callers_mover found))
  | _ => exact still nofun holds

private theorem Consistent.memory_proceed {c : Nat} (holds : places.memory = some c) :
    (s.proceed caller before after places).answer? c = some (.ok ()) := by
  have still (was : s.places.memory = some c) :
      (s.proceed caller before after places).answer? c = some (.ok ()) := by
    refine answer?_eq_some.mpr
      (callers_others found (answer?_eq_some.mp (consistent.memory c was)) ?_)
    rintro rfl
    cases advance
  cases advance with
  | done =>
      cases holds
      exact answer?_eq_some.mpr (callers_mover found)
  | _ => exact still holds

private theorem Consistent.provider_proceed {c : Nat} (holds : places.provider = some c) :
    (s.proceed caller before after places).Unreceived c ∨
      places.receiver = some (.installed c) := by
  have unreceived (was : s.Unreceived c) :
      (s.proceed caller before after places).Unreceived c ∨
        (c = caller ∧ before = .installing .setReceiver) := by
    by_cases same : c = caller
    · refine Or.inr ⟨same, ?_⟩
      subst same
      rcases was with about | refused
      · exact Option.some.inj (found.symm.trans about)
      · cases found.symm.trans (answer?_eq_some.mp refused)
        cases advance
    · rcases was with about | refused
      · exact Or.inl (Or.inl (by rw [callers_proceed found, if_neg same, about]))
      · refine Or.inl (Or.inr (answer?_eq_some.mpr ?_))
        rw [callers_proceed found, if_neg same, answer?_eq_some.mp refused]
  have kept := advance.kept
  cases advance with
  | provided =>
      cases holds
      exact Or.inl (Or.inl (callers_mover found))
  | received vacant =>
      rcases consistent.provider c holds with was | installed
      · rcases unreceived was with still | ⟨rfl, _⟩
        · exact Or.inl still
        · exact Or.inr rfl
      · cases vacant.symm.trans installed
  | refused =>
      rcases consistent.provider c holds with was | installed
      · rcases unreceived was with still | ⟨rfl, _⟩
        · exact Or.inl still
        · exact Or.inl (Or.inr (answer?_eq_some.mpr (callers_mover found)))
      · exact Or.inr installed
  | _ =>
      rcases consistent.provider c holds with was | installed
      · exact Or.inl ((unreceived was).resolve_right nofun)
      · exact Or.inr (kept.receiver _ installed)

private theorem Consistent.provided_proceed {c : Nat}
    (set : (s.proceed caller before after places).callers[c]? = some (.installing .setReceiver) ∨
      places.receiver = some (.installed c)) : places.provider.isSome := by
  rcases set with about | receiver
  · rw [callers_proceed found] at about
    split at about
    · cases about
      cases advance
      rfl
    · exact advance.kept.provider (consistent.provided c (Or.inl about))
  · refine advance.kept.provider ?_
    cases advance with
    | received => exact consistent.provided caller (Or.inl found)
    | set => cases receiver
    | _ => exact consistent.provided c (Or.inr receiver)

omit found in
private theorem Consistent.unset_proceed (unset : places.receiver = none) :
    ∀ t ∈ (s.proceed caller before after places).turns, t.before.receiver = none := by
  have was : s.places.receiver = none := by
    cases receiver : s.places.receiver with
    | none => rfl
    | some r => exact (advance.kept.receiver r receiver).symm.trans unset
  intro t member
  rcases List.mem_append.mp member with earlier | now
  · exact consistent.unset was t earlier
  · cases List.mem_singleton.mp now
    exact was

private theorem Consistent.set_proceed (set : places.receiver.isSome) :
    ∃ earlier t later, (s.proceed caller before after places).ReceiverSet earlier t later := by
  cases was : s.places.receiver with
  | some r =>
      obtain ⟨earlier, t, later, old⟩ := consistent.set (by rw [was]; rfl)
      have same : places.receiver = s.places.receiver := (advance.kept.receiver r was).trans was.symm
      refine ⟨earlier, t, later ++ [⟨caller, before, s.places, places⟩], ?_, old.stage, old.before,
        ⟨old.after.1.trans same.symm, set⟩, fun t' member => ?_⟩
      · rw [proceed, old.turns, List.append_assoc, List.cons_append]
      · rcases List.mem_append.mp member with since | now
        · exact (old.since t' since).trans same.symm
        · cases List.mem_singleton.mp now
          exact same.symm
  | none =>
      -- The receiver is set at this very turn.
      refine ⟨s.turns, ⟨caller, before, s.places, places⟩, [], rfl, ?_, was, ⟨rfl, set⟩,
        fun _ none => absurd none List.not_mem_nil⟩
      cases advance with
      | received => exact Or.inl rfl
      | set => exact Or.inr rfl
      | _ =>
          rw [was] at set
          cases set

/-- A turn keeps callers and places consistent. -/
theorem Consistent.proceed : (s.proceed caller before after places).Consistent where
  fits c stage standing := by
    rw [callers_proceed found] at standing
    split at standing
    · next same =>
        cases standing
        rw [same]
        exact consistent.fits_proceed found advance
    · next different =>
        exact (consistent.fits c stage standing).other advance.kept (Ne.symm different)
  receiver _ := consistent.receiver_proceed found advance
  memory _ := consistent.memory_proceed found advance
  provider _ := consistent.provider_proceed found advance
  provided _ := consistent.provided_proceed found advance
  unset := consistent.unset_proceed advance
  set := consistent.set_proceed found advance

end Proceed

/-- Callers and places are consistent whoever has a turn when. -/
theorem consistent_of_reachable {installing setting : Nat}
    (reachable : machine.Reachable (start installing setting) s) : s.Consistent :=
  reachable.invariant (consistent_start installing setting) fun _ _ _ consistent stepped => by
    obtain ⟨_, _, _, found, advance, rfl⟩ := advance_of_step stepped
    exact consistent.proceed found advance

/-! ## The first wins -/

/-- Callers that passed both checks did so before the receiver was set, once it is set. -/
theorem Consistent.inTime (consistent : s.Consistent) {c : Nat} (passed : Passed s.turns c)
    (set : s.places.receiver.isSome) : s.InTime c := by
  obtain ⟨earlier, t, later, receiver⟩ := consistent.set set
  exact ⟨earlier, t, later, receiver,
    receiver.found_earlier passed.memory (Or.inl rfl) fun _ found => found.2,
    receiver.found_earlier passed.receiver (Or.inr rfl) fun _ found => found⟩

/-- Once the receiver is set, a caller that has only set the provider is refused. -/
theorem Unreceived.overruled {c : Nat} (unreceived : s.Unreceived c)
    (set : s.places.receiver.isSome) : s.Overruled c := by
  rcases unreceived with about | refused
  · obtain ⟨r, receiver⟩ := Option.isSome_iff_exists.mp set
    refine Or.inr ⟨s.proceed c (.installing .setReceiver)
      (.installing (.ended (.error .receiverRefused))) s.places, ?_, ?_⟩
    · change step c s = _
      rw [step, about]
      simp only [Installation.step, Installation.fill, receiver]
    · rw [answer?_eq_some, callers_mover about]
  · exact Or.inl refused

/-- A caller that has set the provider, and not the receiver, has passed both checks. -/
theorem Consistent.passed_of_unreceived (consistent : s.Consistent) {c : Nat}
    (unreceived : s.Unreceived c) : Passed s.turns c := by
  rcases unreceived with about | refused
  · exact (consistent.fits c _ about).2
  · exact (consistent.fits c _ (answer?_eq_some.mp refused)).2.2

/-- **The first caller to set the receiver wins.** -/
structure FirstWins (s : InstallState) : Prop where
  /-- One caller at most returns without an error. -/
  one : ∀ c d, s.answer? c = some (.ok ()) → s.answer? d = some (.ok ()) → c = d
  /-- It passed both checks before the receiver was set, and the receiver and the memory stem from
  it. So does the provider, unless it stems from another that passed both checks before the receiver
  was set, and is or will be refused. -/
  own : ∀ c, s.answer? c = some (.ok ()) → s.InTime c ∧
    s.places.receiver = some (.installed c) ∧ s.places.memory = some c ∧
      ∃ d, s.places.provider = some d ∧ (d = c ∨ (s.InTime d ∧ s.Overruled d))
  /-- A receiver that a caller has set is its own for good: the caller returns without an error, or
  has only to remember to do so. -/
  first : ∀ c, s.places.receiver = some (.installed c) → s.answer? c = some (.ok ()) ∨
    ∃ next, machine.step c s = some next ∧ next.answer? c = some (.ok ())
  /-- A caller that fails a check has changed nothing. -/
  failed : ∀ c e, s.answer? c = some (.error e) → e ≠ .receiverRefused → s.Untouched c
  /-- It has found the memory filled, or the place of the receiver, as its error says. -/
  checked : ∀ c, (s.answer? c = some (.error .alreadyInstalled) →
      Found s.turns c .readMemory fun p => p.memory.isSome) ∧
    (s.answer? c = some (.error .receiverPresent) →
      Found s.turns c .readReceiver fun p => p.receiver.isSome)
  /-- A caller that is refused the receiver passed both checks before the receiver was set, has set
  the provider, and has changed nothing else. -/
  refused : ∀ c, s.answer? c = some (.error .receiverRefused) → s.InTime c ∧ s.OnlyProvided c

/-- **The first caller to set the receiver wins**, whoever has a turn when. -/
theorem firstWins_of_reachable {installing setting : Nat}
    (reachable : machine.Reachable (start installing setting) s) : s.FirstWins := by
  have consistent := consistent_of_reachable reachable
  have won {c : Nat} (answered : s.answer? c = some (.ok ())) :
      s.places.receiver = some (.installed c) ∧ s.places.memory = some c ∧ Passed s.turns c :=
    consistent.fits c _ (answer?_eq_some.mp answered)
  constructor
  case one =>
    intro c d first second
    have same := (won first).2.1.symm.trans (won second).2.1
    exact Option.some.inj same
  case own =>
    intro c answered
    obtain ⟨receiver, memory, passed⟩ := won answered
    have set : s.places.receiver.isSome := by rw [receiver]; rfl
    obtain ⟨d, provider⟩ := Option.isSome_iff_exists.mp (consistent.provided c (Or.inr receiver))
    refine ⟨consistent.inTime passed set, receiver, memory, d, provider, ?_⟩
    rcases consistent.provider d provider with unreceived | mine
    · exact Or.inr ⟨consistent.inTime (consistent.passed_of_unreceived unreceived) set,
        unreceived.overruled set⟩
    · rw [receiver] at mine
      cases mine
      exact Or.inl rfl
  case first =>
    intro c receiver
    rcases consistent.receiver c receiver with waits | answered
    · have vacant := consistent.memory_eq_none waits rfl
      refine Or.inr ⟨s.proceed c (.installing .remember) (.installing (.ended (.ok ())))
        { s.places with memory := some c }, ?_, ?_⟩
      · change step c s = _
        rw [step, waits]
        simp only [Installation.step, vacant]
        rfl
      · rw [answer?_eq_some, callers_mover waits]
    · exact Or.inl answered
  case failed =>
    intro c e answered other
    have fits := consistent.fits c _ (answer?_eq_some.mp answered)
    cases e with
    | alreadyInstalled | receiverPresent => exact fits.1
    | receiverRefused => exact absurd rfl other
  case checked =>
    intro c
    exact ⟨fun answered => (consistent.fits c _ (answer?_eq_some.mp answered)).2,
      fun answered => (consistent.fits c _ (answer?_eq_some.mp answered)).2⟩
  case refused =>
    intro c answered
    obtain ⟨provided, set, passed⟩ := consistent.fits c _ (answer?_eq_some.mp answered)
    exact ⟨consistent.inTime passed set, provided⟩

/-! ## Not all or nothing -/

/-- Two callers pass their checks before either sets anything. The first sets the provider and the
receiver; the second sets the provider, and is refused the receiver; the first remembers. -/
def overtaken : InstallState :=
  machine.run [0, 0, 1, 1, 0, 0, 1, 1, 0] (start 2 0)

/-- A caller overtaken between its two checks and the receiver is refused though its provider
stands. -/
theorem firstWins_overtaken : overtaken.answer? 0 = some (.ok ()) ∧
    overtaken.answer? 1 = some (.error .receiverRefused) ∧ overtaken.FirstWins :=
  ⟨rfl, rfl, firstWins_of_reachable (machine.reachable_run (start 2 0) _)⟩

/-- Installing is all or nothing: everything stems from the one call that returns without an error,
and one that returns an error has changed nothing. -/
structure AllOrNothing (s : InstallState) : Prop where
  one : ∀ c d, s.answer? c = some (.ok ()) → s.answer? d = some (.ok ()) → c = d
  own : ∀ c, s.answer? c = some (.ok ()) → s.places.receiver = some (.installed c) ∧
    s.places.provider = some c ∧ s.places.memory = some c
  failed : ∀ c e, s.answer? c = some (.error e) → s.Untouched c

/-- The provider is that of the caller that was refused, which has changed it. -/
theorem not_allOrNothing : overtaken.places = ⟨some (.installed 0), some 1, some 0⟩ ∧
    ¬ ∀ installing setting s, machine.Reachable (start installing setting) s → AllOrNothing s := by
  refine ⟨rfl, fun allOrNothing => ?_⟩
  have own := (allOrNothing 2 0 overtaken (machine.reachable_run (start 2 0) _)).own 0 rfl
  cases own.2.1

end InstallState

end Metering.Concurrent
