import Metering.Concurrent.Machine
import Metering.Telemetry.Installation

/-!
# Callers that race to install

Any number of callers install, and others set a receiver of their own. Each of the five steps of an
installation is one atomic step, and so is setting a receiver; between two steps of one caller any
others may have a turn. Every turn is noted with where the caller stood, and with the places before
and after it.
-/

namespace Metering.Concurrent

open Metering.Telemetry

/-- A caller: one who installs, by the stage of the call, or one who sets a receiver of someone
else's, with the answer once it is given. -/
inductive InstallCaller where
  | installing (stage : InstallStage)
  | setting (answer : Option (Except InstallError Unit))

/-- A turn: the caller, where it stood, and the places before and after. -/
structure InstallTurn where
  caller : Nat
  stage : InstallCaller
  before : Installation
  after : Installation

/-- The places of the process, the callers, and the turns taken. -/
structure InstallState where
  places : Installation
  callers : List InstallCaller
  turns : List InstallTurn

namespace InstallState

/-- Callers about to install, and after them others about to set a receiver of their own, in a
process with nothing in its places. -/
def start (installing setting : Nat) : InstallState where
  places := .vacant
  callers :=
    List.replicate installing (.installing .readMemory) ++ List.replicate setting (.setting none)
  turns := []

/-- The state after a turn of a caller that stood at a stage. -/
def proceed (s : InstallState) (caller : Nat) (stage next : InstallCaller) (places : Installation) :
    InstallState :=
  ⟨places, s.callers.set caller next, s.turns ++ [⟨caller, stage, s.places, places⟩]⟩

/-- The next atomic step of a caller. -/
def step (caller : Nat) (s : InstallState) : Option InstallState :=
  match s.callers[caller]? with
  | none | some (.installing (.ended _)) | some (.setting (some _)) => none
  | some (.installing stage) =>
    let (next, places) := s.places.step caller stage
    some (s.proceed caller (.installing stage) (.installing next) places)
  | some (.setting none) =>
    let (answer, places) := s.places.fill .foreign
    some (s.proceed caller (.setting none) (.setting (some answer)) places)

/-- The places of a process as a machine. -/
def machine : Machine InstallState :=
  ⟨step⟩

/-- The answer that a call to install has returned. -/
def answer? (s : InstallState) (caller : Nat) : Option (Except InstallError Unit) :=
  match s.callers[caller]? with
  | some (.installing (.ended answer)) => some answer
  | _ => none

end InstallState

end Metering.Concurrent
