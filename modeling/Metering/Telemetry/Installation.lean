/-!
# Installation

A process has one place for the receiver of its traces, one for the provider of its spans and one
that remembers the installation. Installing fills all three, in five steps: the memory is read, the
receiver's place is read, the provider is set, the receiver is set, and the installation is
remembered. The receiver's place can be filled once only, by an installation or by someone else.
-/

namespace Metering.Telemetry

/-- Why an installation, or the setting of a receiver, fails. -/
inductive InstallError where
  | alreadyInstalled
  | receiverPresent
  | receiverRefused
deriving DecidableEq

/-- The message of a failure. -/
def InstallError.message : InstallError → String
  | .alreadyInstalled => "spark-metrics-otel 已完成安装，禁止重复调用 install"
  | .receiverPresent => "全局 tracing Subscriber 已存在，spark-metrics-otel 无法覆盖"
  | .receiverRefused =>
    "设置 tracing 全局 Subscriber 失败: a global default trace dispatcher has already been set"

/-- The receiver of all traces: one set by an installation, or someone else's. -/
inductive Receiver where
  | installed (call : Nat)
  | foreign
deriving DecidableEq

/-- The three places of a process; installations are told apart by the number of their call. -/
structure Installation where
  receiver : Option Receiver
  provider : Option Nat
  memory : Option Nat
deriving DecidableEq, Inhabited

/-- Where a call stands: before each of its five steps, or at its end. -/
inductive InstallStage where
  | readMemory
  | readReceiver
  | setProvider
  | setReceiver
  | remember
  | ended (answer : Except InstallError Unit)

namespace Installation

/-- A place for each of the three things, all of them empty. -/
def vacant : Installation := ⟨none, none, none⟩

/-- Fills the receiver's place, if it is empty. -/
def fill (p : Installation) (receiver : Receiver) : Except InstallError Unit × Installation :=
  match p.receiver with
  | none => (.ok (), { p with receiver := some receiver })
  | some _ => (.error .receiverRefused, p)

/-- The next step of a call. -/
def step (call : Nat) (p : Installation) : InstallStage → InstallStage × Installation
  | .readMemory =>
    (if p.memory.isSome then .ended (.error .alreadyInstalled) else .readReceiver, p)
  | .readReceiver =>
    (if p.receiver.isSome then .ended (.error .receiverPresent) else .setProvider, p)
  | .setProvider => (.setReceiver, { p with provider := some call })
  | .setReceiver =>
    match p.fill (.installed call) with
    | (.ok (), p) => (.remember, p)
    | (.error e, p) => (.ended (.error e), p)
  | .remember =>
    if p.memory.isSome then (.ended (.error .alreadyInstalled), p)
    else (.ended (.ok ()), { p with memory := some call })
  | .ended answer => (.ended answer, p)

/-- Some number of steps of a call, with no other call in between. -/
def steps (call : Nat) : Nat → InstallStage → Installation → InstallStage × Installation
  | 0, stage, p => (stage, p)
  | n + 1, stage, p =>
    let (stage, p) := p.step call stage
    steps call n stage p

/-- A whole call with no other call in between. -/
def install (p : Installation) (call : Nat) : Except InstallError Unit × Installation :=
  match p.memory, p.receiver with
  | some _, _ => (.error .alreadyInstalled, p)
  | none, some _ => (.error .receiverPresent, p)
  | none, none => (.ok (), ⟨some (.installed call), some call, some call⟩)

/-- The five steps of a call come to what a whole call comes to. -/
theorem steps_readMemory (call : Nat) (p : Installation) :
    steps call 5 .readMemory p = (.ended (p.install call).1, (p.install call).2) := by
  obtain ⟨receiver, provider, memory⟩ := p
  cases memory <;> cases receiver <;> rfl

/-- Whether spans go to an installed receiver. -/
def isActive (p : Installation) : Bool :=
  match p.receiver with
  | some (.installed _) => true
  | _ => false

end Installation

end Metering.Telemetry
