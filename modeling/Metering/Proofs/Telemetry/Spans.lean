import Metering.Proofs.Run.Reports
import Metering.Proofs.Telemetry.Hosts

/-! # The spans that a host lists

Once an installation has succeeded, the finished spans are those that the forest of what was done
tells: those that are let through and were closed since the last reset, in order of closing, each in
the nearest such span around it or the root of a trace of its own, with valid identifiers, and with
the entries that are its own. Each entry that is let through in some such span is in one span; among
these entries is the report of each point that a sink was told of and reports
(`Metering.Telemetry.Host.told_of_installed`).
-/

namespace Metering

open Telemetry

namespace State

/-- The state after a deed. -/
def afterDeed (s : State) : Deed → State
  | .act activity => s.doing activity
  | .install | .setForeign => s

section Happened

variable (added : State → OrderedCommand → List Entry)

/-- What happens in a deed, with the entries that each command is taken to add. -/
def happens (s : State) : Deed → Forest
  | .act activity => s.forest added activity
  | .install | .setForeign => .nil

/-- What happens in several deeds, with the entries that each command is taken to add. -/
def happened (s : State) : List Deed → Forest
  | [] => .nil
  | deed :: rest => (s.happens added deed).append ((s.afterDeed deed).happened rest)

/-- Of what happens, the chosen entries are those that are chosen of what each command adds. -/
theorem restrict_happened (chosen : Entry → Bool) (s : State) (deeds : List Deed) :
    (s.happened added deeds).restrict chosen =
      s.happened (fun s command => (added s command).filter chosen) deeds := by
  induction deeds generalizing s with
  | nil => rfl
  | cons deed rest ih =>
      rw [happened, Forest.restrict_append, ih, happened]
      cases deed with
      | act activity => rw [happens, restrict_forest, happens]
      | install | setForeign => rfl

end Happened

end State

namespace Telemetry

namespace Installation

variable {p : Installation}

/-- What is installed stays so. -/
theorem isActive_install (active : p.isActive = true) (call : Nat) :
    (p.install call).2.isActive = true := by
  rw [install]
  cases p.memory with
  | some _ => exact active
  | none =>
      cases p.receiver with
      | some _ => exact active
      | none => rfl

private theorem isActive_fill (active : p.isActive = true) (r : Receiver) :
    (p.fill r).2.isActive = true := by
  rw [fill]
  cases receiver : p.receiver with
  | some _ => exact active
  | none =>
      rw [isActive, receiver] at active
      cases active

private theorem isActive_of_install {call : Nat} (installs : (p.install call).1 = .ok ()) :
    p.isActive = false ∧ (p.install call).2.isActive = true := by
  rw [install] at installs
  cases memory : p.memory with
  | some _ =>
      rw [memory] at installs
      cases installs
  | none =>
      cases receiver : p.receiver with
      | some _ =>
          rw [memory, receiver] at installs
          cases installs
      | none =>
          rw [install, isActive, memory, receiver]
          exact ⟨rfl, rfl⟩

end Installation

namespace Span

private theorem findIdx?_number {finished : List Span} (distinct : (finished.map number).Nodup)
    {place : Nat} {span : Span} (found : finished[place]? = some span) :
    (finished.findIdx? fun other => other.number == span.number) = some place := by
  obtain ⟨inside, rfl⟩ := List.getElem?_eq_some_iff.mp found
  rw [List.findIdx?_eq_some_iff_getElem]
  refine ⟨inside, beq_self_eq_true _, fun earlier before same => ?_⟩
  rw [List.nodup_iff_pairwise_ne, List.pairwise_map] at distinct
  have different := List.pairwise_iff_getElem.mp distinct earlier place
    (Nat.lt_trans before inside) inside before
  exact different (eq_of_beq same)

/-- What is seen of a span at a place among the finished ones. -/
inductive Seen (finished : List Span) (place : Nat) (span : Span) : Prop
  /-- It is a root. -/
  | root (parent : span.parent = none) (isRoot : (span.view finished).isRoot = true)
      (seen : (span.view finished).parent = none)
  /-- It lies in a span that is closed after it, and shares the trace of that. -/
  | inside (next : Nat) (around : Span) (closes : place < next)
      (found : finished[next]? = some around) (parent : span.parent = some around.number)
      (trace : span.trace = around.trace) (isRoot : (span.view finished).isRoot = false)
      (seen : (span.view finished).parent = some next)
      (sameTrace : (span.view finished).sameTrace = some true)

private theorem Nested.seen
    {issuer : Issuer} {finished : List Span} (nested : Nested issuer none finished)
    (distinct : (finished.map number).Nodup) {place : Nat} {span : Span}
    (found : finished[place]? = some span) : span.Seen finished place := by
  rcases nested.getElem? found with lies | ⟨next, around, closes, there, lies⟩
  · have parent : span.parent = none := lies.parent
    refine .root parent ?_ ?_
    · rw [view, parent]
      rfl
    · rw [view, parent]
      rfl
  · have parent : span.parent = some around.number := lies.parent
    have trace : span.trace = around.trace := lies.trace
    have place := findIdx?_number distinct there
    refine .inside next around closes there parent trace ?_ ?_ ?_
    · rw [view, parent]
      rfl
    · rw [view, parent]
      exact place
    · rw [view, parent, Option.bind_some, place, Option.bind_some, there, Option.map_some, trace,
        beq_self_eq_true]

end Span

namespace Host

/-- What the finished spans of a host tell of deeds that were begun in a state. -/
structure Told (issuer : Issuer) (filter : Filter) (s : State) (deeds : List Deed) (h : Host) :
    Prop where
  /-- They are the spans that are let through and were closed since the last reset, in order of
  closing, each in its context. -/
  tells : (s.happened State.written deeds).Tells filter issuer none h.finished
  /-- Their identifiers are valid. -/
  valid : ∀ span ∈ h.finished, span.id.isValid = true ∧ span.trace.isValid = true
  /-- No two have one number. -/
  distinct : (h.finished.map Span.number).Nodup
  /-- Each is a root, or is seen to lie in one that is closed after it. -/
  seen : ∀ place (span : Span), h.finished[place]? = some span → span.Seen h.finished place
  /-- The entries of each are in order of time. -/
  inOrder : ∀ span ∈ h.finished,
    span.events.Sublist ((s.happened State.written deeds).kept filter false)
  /-- Every entry that is let through in some such span is in one, and no other entry is in any, as
  long as none has more entries than a span keeps. -/
  once : (s.happened State.written deeds).Brief filter →
    (h.finished.flatMap Span.events).Perm ((s.happened State.written deeds).kept filter false)
  /-- The reports of sinks, in the places in which they are written, are those of what requests tell
  sinks there: one for each delivery to a sink that reports, and in order. -/
  reported : (s.happened State.written deeds).restrict Entry.isReport =
    s.happened State.reportedBy deeds
  /-- So the report of each delivery that is let through in some such span is in one. -/
  reportedOnce : (s.happened State.written deeds).Brief filter →
    ((h.finished.flatMap Span.events).filter Entry.isReport).Perm
      ((s.happened State.reportedBy deeds).kept filter false)

/-! ## What is kept from deed to deed -/

variable {issuer : Issuer} {filter : Filter} {forest : Forest} {h : Host}

/-- What is the same all along. -/
structure Settled (issuer : Issuer) (filter : Filter) (h : Host) : Prop where
  issued : h.issuer = issuer
  filtered : h.filter = filter
  settled : h.openSpans = []

private theorem Settled.of_same {h' : Host} (settled : h.Settled issuer filter)
    (issued : h'.issuer = h.issuer) (filtered : h'.filter = h.filter)
    (same : h'.openSpans = h.openSpans) : h'.Settled issuer filter :=
  ⟨issued.trans settled.issued, filtered.trans settled.filtered, same.trans settled.settled⟩

/-- Whatever a program does opens and closes spans in pairs. -/
theorem Settled.act (settled : h.Settled issuer filter) (activity : Activity) :
    (h.act activity).Settled issuer filter := by
  rw [act_eq_meet]
  cases active : h.installation.isActive with
  | false =>
      rw [meet_of_inactive active settled.settled]
      exact settled.of_same rfl rfl rfl
  | true =>
      obtain ⟨opened, spans, meets⟩ := exists_meets (h.state.forest State.written activity) active
      rw [meets.after]
      refine settled.of_same rfl rfl ?_
      change h.openSpans.modifyHead _ = h.openSpans
      rw [settled.settled]
      rfl

/-- A host that is installed, and whose finished spans a forest tells. -/
structure Recounts (issuer : Issuer) (filter : Filter) (forest : Forest) (h : Host) : Prop
    extends h.Settled issuer filter where
  active : h.installation.isActive = true
  tells : forest.Tells filter issuer none h.finished
  numbered : Span.Numbered 0 h.opened h.finished

/-- What a program does on a host is recounted after what was done before. -/
theorem Recounts.act (recounts : h.Recounts issuer filter forest) (activity : Activity) :
    (h.act activity).Recounts issuer filter
      (forest.append (h.state.forest State.written activity)) := by
  obtain ⟨settled, active, tells, numbered⟩ := recounts
  have after := settled.act activity
  obtain ⟨rfl, rfl, closed⟩ := settled
  obtain ⟨opened, spans, meets⟩ := exists_meets (h.state.forest State.written activity) active
  have more := meets.tells
  rw [context?, closed, List.head?_nil, Option.map_none] at more
  rw [act_eq_meet, meets.after] at after ⊢
  refine ⟨after, active, ?_, (numbered.cleared _).append meets.numbered⟩
  change Forest.Tells h.filter h.issuer none _ ((if _ then [] else h.finished) ++ spans)
  cases resets : (h.state.forest State.written activity).resets with
  | true => exact .append_of_resets forest resets more
  | false => exact tells.append resets more

/-- A deed is recounted after what was done before. -/
theorem Recounts.undergo (recounts : h.Recounts issuer filter forest) (deed : Deed) :
    (h.undergo deed).Recounts issuer filter
      (forest.append (h.state.happens State.written deed)) := by
  have settled := recounts.toSettled
  cases deed with
  | install =>
      rw [State.happens, Forest.append_nil]
      exact ⟨settled.of_same rfl rfl rfl, Installation.isActive_install recounts.active _,
        recounts.tells, recounts.numbered⟩
  | setForeign =>
      rw [State.happens, Forest.append_nil]
      exact ⟨settled.of_same rfl rfl rfl, Installation.isActive_fill recounts.active _,
        recounts.tells, recounts.numbered⟩
  | act activity => exact recounts.act activity

private theorem state_undergo (h : Host) (deed : Deed) :
    (h.undergo deed).state = h.state.afterDeed deed := by
  cases deed with
  | install | setForeign => rfl
  | act activity => exact congrArg Host.state (h.act_eq_meet activity)

/-- Deeds are recounted after what was done before. -/
theorem Recounts.live (recounts : h.Recounts issuer filter forest) (deeds : List Deed) :
    (h.live deeds).Recounts issuer filter
      (forest.append (h.state.happened State.written deeds)) := by
  induction deeds generalizing h forest with
  | nil =>
      rw [State.happened, Forest.append_nil]
      exact recounts
  | cons deed rest ih =>
      have later := ih (recounts.undergo deed)
      rw [state_undergo, Forest.append_assoc] at later
      exact later

/-- **The finished spans of a host that recounts deeds.** -/
theorem Recounts.told {s : State} {deeds : List Deed}
    (recounts : h.Recounts issuer filter (s.happened State.written deeds)) :
    h.Told issuer filter s deeds := by
  have once (brief : (s.happened State.written deeds).Brief filter) :=
    recounts.tells.perm brief false
  have reported : (s.happened State.written deeds).restrict Entry.isReport =
      s.happened State.reportedBy deeds := by
    rw [State.restrict_happened]
    exact congrArg (s.happened · deeds) (funext fun s => funext s.filter_written)
  constructor
  case tells => exact recounts.tells
  case valid => exact recounts.tells.valid nofun
  case distinct => exact recounts.numbered.nodup
  case seen => exact fun _ _ found => recounts.tells.nested.seen recounts.numbered.nodup found
  case inOrder => exact recounts.tells.sublist false
  case once => exact once
  case reported => exact reported
  case reportedOnce =>
    intro brief
    rw [← reported, ← Forest.filter_kept]
    exact (once brief).filter _

/-! ## Before the installation -/

/-- A host that lists no span before it is installed. -/
structure Quiet (issuer : Issuer) (filter : Filter) (h : Host) : Prop
    extends h.Settled issuer filter where
  silent : h.installation.isActive = false → h.finished = []

/-- Nothing is listed as long as a host is not installed, if it was not before. -/
theorem Quiet.of_stays {h' : Host} (quiet : h.Quiet issuer filter)
    (settled : h'.Settled issuer filter) (same : h'.finished = h.finished)
    (stays : h.installation.isActive = true → h'.installation.isActive = true) :
    h'.Quiet issuer filter := by
  refine ⟨settled, fun inactive => same.trans (quiet.silent ?_)⟩
  refine Bool.eq_false_iff.mpr fun active => ?_
  cases (stays active).symm.trans inactive

private theorem Quiet.undergo (quiet : h.Quiet issuer filter) (deed : Deed) :
    (h.undergo deed).Quiet issuer filter := by
  have settled := quiet.toSettled
  cases deed with
  | install =>
      exact quiet.of_stays (settled.of_same rfl rfl rfl) rfl
        (Installation.isActive_install · h.calls)
  | setForeign =>
      exact quiet.of_stays (settled.of_same rfl rfl rfl) rfl
        (Installation.isActive_fill · .foreign)
  | act activity =>
      cases active : h.installation.isActive with
      | false =>
          refine ⟨settled.act activity, fun _ => ?_⟩
          change (h.act activity).finished = []
          rw [act_eq_meet, meet_of_inactive active settled.settled]
          change (if _ then [] else h.finished) = []
          rw [quiet.silent active, ite_self]
      | true =>
          obtain ⟨opened, spans, meets⟩ :=
            exists_meets (h.state.forest State.written activity) active
          refine ⟨settled.act activity, ?_⟩
          change (h.act activity).installation.isActive = false → _
          rw [act_eq_meet, meets.after]
          exact fun inactive => by cases active.symm.trans inactive

private theorem Quiet.live (quiet : h.Quiet issuer filter) (deeds : List Deed) :
    (h.live deeds).Quiet issuer filter := by
  induction deeds generalizing h with
  | nil => exact quiet
  | cons deed rest ih => exact ih (quiet.undergo deed)

private theorem quiet_startWith (issuer : Issuer) (filter : Filter) :
    (startWith issuer filter).Quiet issuer filter :=
  ⟨⟨rfl, rfl, rfl⟩, fun _ => rfl⟩

/-- An installation that succeeds finds nothing to recount. -/
theorem Quiet.install (quiet : h.Quiet issuer filter) (installs : h.install.1 = .ok ()) :
    h.install.2.Recounts issuer filter .nil := by
  obtain ⟨before, active⟩ := Installation.isActive_of_install installs
  have nothing : h.install.2.finished = [] := quiet.silent before
  refine ⟨quiet.toSettled.of_same rfl rfl rfl, active, ?_, ?_⟩
  · rw [nothing]
    exact .nil
  · rw [nothing]
    exact .nil (Nat.zero_le _)

/-- **Exported spans account for all that happens.** Whatever a program has done before an
installation that succeeds, and whatever it does after it, the finished spans tell of what was done
after it, as far as they were closed since the last reset. -/
theorem told_of_installed (issuer : Issuer) (filter : Filter) (before : List Deed) {h : Host}
    (reached : (startWith issuer filter).live before = h) (installs : h.install.1 = .ok ())
    (deeds : List Deed) :
    (h.install.2.live deeds).Told issuer filter h.state deeds := by
  have quiet := (quiet_startWith issuer filter).live before
  rw [reached] at quiet
  exact ((quiet.install installs).live deeds).told

/-- A span before the installation. -/
def early : List Deed :=
  [.act (.span "early" .error
    (.command (.createSink (.journaling .info))
      (.command (.perform (.createMeter ⟨"m", none, ⟨0⟩, 1⟩))
        (.command (.perform (.build ⟨0⟩ ⟨"x", .counter, .long, []⟩)) .done))) .done)]

/-- A span before a reset; then a span in which another is closed before one more reset, with points
before, within and after a span that is not let through, in which lies one that is. -/
def nested : List Deed :=
  let point (n : Int64) : Activity → Activity :=
    .command (.perform (.record ⟨⟨0⟩, 0⟩ (.long n) .empty))
  [.act (.span "forgotten" .info (point 1 .done) (.reset .done)), .install,
    .act (.span "outer" .info
      (point 2 (.span "forgotten" .info (point 3 .done) (.reset
        (.span "hidden" .debug
          (point 4 (.span "inner" .warn (point 5 .done) .done)) (point 6 .done))))) .done)]

/-- A batch is put together and committed within spans, one of them inside another, and what
finished before is forgotten within one that is open. -/
theorem told_nested :
    let h := (startWith .counting (.ofChoice none)).live early
    h.install.1 = .ok () ∧
      (h.install.2.live nested).finished.map
          (fun span => (span.name, span.number, span.parent, span.events.length)) =
        [("inner", 3, some 1, 1), ("outer", 1, none, 3)] ∧
      (h.state.happened State.written nested).Brief (.ofChoice none) ∧
      (h.install.2.live nested).Told .counting (.ofChoice none) h.state nested :=
  ⟨rfl, by decide +kernel, by decide +kernel,
    told_of_installed .counting (.ofChoice none) early rfl rfl nested⟩

end Host

end Telemetry

end Metering
