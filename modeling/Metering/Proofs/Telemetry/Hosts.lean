import Metering.Proofs.Run.Journal
import Metering.Proofs.Telemetry.Forest

/-! # What happens on a host

What a program does comes to a forest: its spans, with the entries that its commands write to the
journal among them. The objects do not depend on the spans, and the spans depend on the objects only
through the forest (`Metering.Telemetry.Host.act_eq_meet`). On a host that is installed, a forest
leads to the spans that it tells (`Metering.Telemetry.Host.exists_meets`); on one that is not, it
leads to none.
-/

namespace Metering

open Telemetry

namespace State

/-- The state after a program did something; that some of it was done in spans makes no
difference. -/
def doing (s : State) : Activity → State
  | .done => s
  | .command command rest => (s.executeIn command).2.doing rest
  | .span _ _ inside rest => (s.doing inside).doing rest
  | .reset rest => s.doing rest

/-- What happens when a program does something, with the entries that each command is taken to
add. -/
def forest (added : State → OrderedCommand → List Entry) (s : State) : Activity → Forest
  | .done => .nil
  | .command command rest =>
    .ofEntries (added s command) ((s.executeIn command).2.forest added rest)
  | .span name level inside rest =>
    .span name level (s.forest added inside) ((s.doing inside).forest added rest)
  | .reset rest => .reset (s.forest added rest)

/-- What happens has all the entries that the journal gains. -/
theorem journal_doing (s : State) (activity : Activity) :
    (s.doing activity).journal = s.journal ++ (s.forest written activity).entries := by
  induction activity generalizing s with
  | done => exact (List.append_nil _).symm
  | command command rest ih =>
      rw [doing, ih, journal_executeIn, List.append_assoc, forest, Forest.entries_ofEntries]
  | span name level inside rest ihInside ihRest =>
      rw [doing, ihRest, ihInside, List.append_assoc, forest, Forest.entries]
  | reset rest ih => exact ih s

/-- Of what happens, the chosen entries are those that are chosen of what each command adds. -/
theorem restrict_forest (chosen : Entry → Bool) (added : State → OrderedCommand → List Entry)
    (s : State) (activity : Activity) : (s.forest added activity).restrict chosen =
      s.forest (fun s command => (added s command).filter chosen) activity := by
  induction activity generalizing s with
  | done => rfl
  | command command rest ih => rw [forest, Forest.restrict_ofEntries, ih, forest]
  | span name level inside rest ihInside ihRest =>
      rw [forest, Forest.restrict, ihInside, ihRest, forest]
  | reset rest ih => rw [forest, Forest.restrict, ih, forest]

end State

namespace Telemetry

namespace Span

variable (spans : List Span) (entries more : List Entry)

private theorem modifyHead_extend_nil : spans.modifyHead (fun span => span.extend []) = spans := by
  cases spans with
  | nil => rfl
  | cons span spans =>
      refine congrArg (· :: spans) ?_
      exact congrArg (fun events => { span with events := events }) (List.append_nil _)

private theorem modifyHead_extend_extend :
    (spans.modifyHead fun span => span.extend entries).modifyHead (fun span => span.extend more) =
      spans.modifyHead fun span => span.extend (entries ++ more) := by
  cases spans with
  | nil => rfl
  | cons span spans =>
      refine congrArg (· :: spans) ?_
      exact congrArg (fun events => { span with events := events }) (List.append_assoc ..)

end Span

namespace Host

/-! ## What happens to the spans of a host -/

/-- The host after something happened, as far as spans are concerned. -/
def meet (h : Host) : Forest → Host
  | .nil => h
  | .entry e rest => (h.attach [e]).meet rest
  | .span name level inside rest => (((h.enter name level).meet inside).leave level).meet rest
  | .reset rest => h.reset.meet rest

/-- The host when spans have been opened up to a number, the innermost open span has taken more
entries, and more spans are finished. -/
def onward (h : Host) (opened : Nat) (entries : List Entry) (spans : List Span) : Host :=
  { h with
    opened := opened
    openSpans := h.openSpans.modifyHead fun span => span.extend entries
    finished := h.finished ++ spans }

/-- The host with no finished spans, if finished spans are forgotten in a forest. -/
def cleared (h : Host) (forest : Forest) : Host :=
  { h with finished := if forest.resets then [] else h.finished }

/-- The context in which the next span is opened. -/
def context? (h : Host) : Option Span.Context :=
  h.openSpans.head?.map Span.context

section Onward

variable (h : Host) (opened : Nat) (entries : List Entry) (spans : List Span)

private theorem context?_onward : (h.onward opened entries spans).context? = h.context? := by
  rw [context?, context?, onward]
  cases h.openSpans <;> rfl

private theorem onward_onward (next : Nat) (more : List Entry) (later : List Span) :
    (h.onward opened entries spans).onward next more later =
      h.onward next (entries ++ more) (spans ++ later) := by
  rw [onward, onward, onward, ← Span.modifyHead_extend_extend, ← List.append_assoc]

/-- What is forgotten of the spans that are finished since is forgotten. -/
theorem cleared_onward (forest : Forest) : (h.onward opened entries spans).cleared forest =
    (h.cleared forest).onward opened entries (if forest.resets then [] else spans) := by
  rw [cleared, cleared, onward, onward]
  cases forest.resets <;> rfl

/-- What is forgotten within a span and after it is forgotten in all. -/
theorem cleared_cleared (name : String) (level : Level) (inside rest : Forest) :
    (h.cleared inside).cleared rest = h.cleared (.span name level inside rest) := by
  rw [cleared, cleared, cleared, Forest.resets]
  cases inside.resets <;> cases rest.resets <;> rfl

private theorem cleared_reset (rest : Forest) : h.reset.cleared rest = h.cleared (.reset rest) := by
  rw [cleared, cleared, reset, Forest.resets]
  cases rest.resets <;> rfl

private theorem onward_cleared_onward (name : String) (level : Level) (inside rest : Forest)
    (next : Nat)
    (more : List Entry) (later : List Span) :
    (((h.cleared inside).onward opened entries spans).cleared rest).onward next more later =
      (h.cleared (.span name level inside rest)).onward next (entries ++ more)
        ((if rest.resets then [] else spans) ++ later) := by
  rw [cleared_onward, onward_onward, cleared_cleared]

private theorem onward_self : h.onward h.opened [] [] = h := by
  rw [onward, Span.modifyHead_extend_nil, List.append_nil]

/-- To write entries within a span goes on from where the host is, without a span more. -/
theorem attach_eq_onward :
    h.attach entries = h.onward h.opened (entries.filter fun e => h.admits e.level) [] := by
  rw [attach, onward, List.append_nil]
  obtain ⟨state, installation, issuer, filter, calls, opened, openSpans, finished⟩ := h
  cases openSpans <;> rfl

end Onward

private theorem attach_nil (h : Host) : h.attach [] = h := by
  rw [attach_eq_onward, List.filter_nil, onward_self]

/-- Entries may be written in two parts. -/
theorem attach_append (h : Host) (entries more : List Entry) :
    (h.attach entries).attach more = h.attach (entries ++ more) := by
  rw [attach_eq_onward h, attach_eq_onward, onward_onward, attach_eq_onward h, List.filter_append]
  rfl

/-- Entries that come before the rest of a forest are attached first. -/
theorem meet_ofEntries (h : Host) (entries : List Entry) (rest : Forest) :
    h.meet (.ofEntries entries rest) = (h.attach entries).meet rest := by
  induction entries generalizing h with
  | nil =>
      rw [attach_nil]
      rfl
  | cons e entries ih =>
      change (h.attach [e]).meet (.ofEntries entries rest) = _
      rw [ih, attach_append, List.singleton_append]

section WithState

variable (h : Host) (s : State)

/-- What is attached to spans does not depend on the objects. -/
theorem attach_withState (entries : List Entry) :
    ({ h with state := s } : Host).attach entries = { h.attach entries with state := s } := by
  rw [attach_eq_onward, attach_eq_onward]
  rfl

private theorem enter_withState (name : String) (level : Level) :
    ({ h with state := s } : Host).enter name level = { h.enter name level with state := s } := by
  rw [enter, enter]
  change (if h.admits level then _ else _) = _
  split <;> rfl

private theorem leave_withState (level : Level) :
    ({ h with state := s } : Host).leave level = { h.leave level with state := s } := by
  rw [leave, leave]
  change (if h.admits level then _ else _) = _
  obtain ⟨state, installation, issuer, filter, calls, opened, openSpans, finished⟩ := h
  split
  · cases openSpans <;> rfl
  · rfl

/-- What happens to the spans does not depend on the objects. -/
theorem meet_withState (forest : Forest) :
    ({ h with state := s } : Host).meet forest = { h.meet forest with state := s } := by
  induction forest generalizing h with
  | nil => rfl
  | entry e rest ih => rw [meet, attach_withState, ih, meet]
  | span name level inside rest ihInside ihRest =>
      rw [meet, enter_withState, ihInside, leave_withState, ihRest, meet]
  | reset rest ih => exact ih h.reset

end WithState

/-- **What a program does to its host**: its commands change the objects, and what happens changes
the spans. -/
theorem act_eq_meet (h : Host) (activity : Activity) :
    h.act activity = { h.meet (h.state.forest State.written activity) with
      state := h.state.doing activity } := by
  induction activity generalizing h with
  | done => rfl
  | command command rest ih =>
      have executed : (h.execute command).2 =
          { h.attach (h.state.written command) with state := (h.state.executeIn command).2 } :=
        attach_withState h (h.state.executeIn command).2 _
      rw [act, ih, executed, meet_withState, State.forest, meet_ofEntries, State.doing]
  | span name level inside rest ihInside ihRest =>
      have entered : (h.enter name level).state = h.state := by
        rw [enter]
        split <;> rfl
      rw [act, ihInside, leave_withState, ihRest, meet_withState, entered, State.forest, meet,
        State.doing]
  | reset rest ih => exact ih h.reset

/-! ## What happens on an installed host -/

/-- What a forest comes to on a host: finished spans are forgotten if they are in the forest, the
innermost open span takes the entries that are the forest's own, and the spans that are listed are
finished in order. -/
structure Meets (h : Host) (forest : Forest) (opened : Nat) (spans : List Span) : Prop where
  after : h.meet forest = (h.cleared forest).onward opened (forest.own h.filter) spans
  tells : forest.Tells h.filter h.issuer h.context? spans
  numbered : Span.Numbered h.opened opened spans

variable {h : Host}

private theorem admits_of_active (active : h.installation.isActive = true) (level : Level) :
    h.admits level = h.filter.admits level := by
  rw [admits, active, Bool.true_and]

/-- On a host that is not installed, nothing happens to the spans but that finished ones are
forgotten. -/
theorem meet_of_inactive (inactive : h.installation.isActive = false) (settled : h.openSpans = [])
    (forest : Forest) : h.meet forest = h.cleared forest := by
  have shut {h : Host} (inactive : h.installation.isActive = false) (level : Level) :
      h.admits level = false := by
    rw [admits, inactive, Bool.false_and]
  induction forest generalizing h with
  | nil => rfl
  | entry e rest ih =>
      have same : h.attach [e] = h := by
        rw [attach, settled]
      rw [meet, same, ih inactive settled]
      rfl
  | span name level inside rest ihInside ihRest =>
      have entered : h.enter name level = h := by
        rw [enter, shut inactive, if_neg Bool.false_ne_true]
      have left : (h.cleared inside).leave level = h.cleared inside := by
        rw [leave, shut (h := h.cleared inside) inactive, if_neg Bool.false_ne_true]
      rw [meet, entered, ihInside inactive settled, left,
        ihRest (h := h.cleared inside) inactive settled, cleared_cleared]
  | reset rest ih => rw [meet, ih (h := h.reset) inactive settled, cleared_reset]

private theorem Meets.entry {e : Entry} {rest : Forest} {opened : Nat} {spans : List Span}
    (active : h.installation.isActive = true)
    (meets : (h.attach [e]).Meets rest opened spans) : h.Meets (.entry e rest) opened spans := by
  obtain ⟨after, tells, numbered⟩ := meets
  rw [attach_eq_onward] at after tells numbered
  rw [context?_onward] at tells
  refine ⟨?_, .entry tells, numbered⟩
  rw [meet, attach_eq_onward, after, cleared_onward, onward_onward, ite_self, List.nil_append]
  congr 1
  rw [Forest.own, List.filter_singleton, admits_of_active active]
  cases h.filter.admits e.level <;> rfl

private theorem Meets.reset {rest : Forest} {opened : Nat} {spans : List Span}
    (meets : h.reset.Meets rest opened spans) : h.Meets (.reset rest) opened spans := by
  obtain ⟨after, tells, numbered⟩ := meets
  refine ⟨?_, .reset tells, numbered⟩
  rw [meet, after, cleared_reset]
  rfl

/-- A span that is not let through leaves no trace. -/
theorem Meets.hidden {name : String} {level : Level} {inside rest : Forest} {opened next : Nat}
    {within after : List Span} (active : h.installation.isActive = true)
    (dropped : h.filter.admits level = false) (meets : h.Meets inside opened within)
    (later : ((h.cleared inside).onward opened (inside.own h.filter) within).Meets rest next after) :
    h.Meets (.span name level inside rest) next
      ((if rest.resets then [] else within) ++ after) := by
  have shut : ((h.cleared inside).onward opened (inside.own h.filter) within).admits level =
      false :=
    (admits_of_active (h := (h.cleared inside).onward opened _ within) active level).trans dropped
  have entered : h.enter name level = h := by
    rw [enter, admits_of_active active, dropped, if_neg Bool.false_ne_true]
  have tells := later.tells
  rw [context?_onward] at tells
  refine ⟨?_, ?_, ?_⟩
  · rw [meet, entered, meets.after, leave, shut, if_neg Bool.false_ne_true, later.after,
      onward_cleared_onward h _ _ _ name level, Forest.own, dropped, if_neg Bool.false_ne_true]
    rfl
  · cases resets : rest.resets with
    | true => exact .forgotten resets tells
    | false => exact .hidden resets dropped meets.tells tells
  · exact (meets.numbered.cleared rest.resets).append later.numbered

section NextSpan

variable (h : Host) (name : String) (level : Level)

private theorem nextSpan_fields : (h.nextSpan name level).name = name ∧
    (h.nextSpan name level).level = level ∧ (h.nextSpan name level).number = h.opened ∧
    (h.nextSpan name level).events = [] := by
  rw [nextSpan]
  cases h.openSpans <;> exact ⟨rfl, rfl, rfl, rfl⟩

/-- The span opened next lies in the context of the host. -/
theorem liesIn_nextSpan : (h.nextSpan name level).LiesIn h.issuer h.context? := by
  rw [nextSpan, context?]
  cases h.openSpans <;> exact ⟨rfl, rfl, rfl⟩

end NextSpan

/-- The host after the next span was opened. -/
def inward (h : Host) (name : String) (level : Level) : Host :=
  { h with opened := h.opened + 1, openSpans := h.nextSpan name level :: h.openSpans }

section Shown

variable {name : String} {level : Level} (active : h.installation.isActive = true)
  (admitted : h.filter.admits level = true)

include active admitted

private theorem enter_eq_inward : h.enter name level = h.inward name level := by
  rw [enter, admits_of_active active, admitted, if_pos rfl]
  rfl

private theorem leave_inward (opened : Nat) (entries : List Entry) (within : List Span) :
    ((h.inward name level).onward opened entries within).leave level =
      h.onward opened [] (within ++ [((h.nextSpan name level).extend entries).close]) := by
  have through : ((h.inward name level).onward opened entries within).admits level = true :=
    (admits_of_active active level).trans admitted
  calc ((h.inward name level).onward opened entries within).leave level
      = { h with
          opened := opened
          finished := h.finished ++ within ++ [((h.nextSpan name level).extend entries).close] } := by
        rw [leave, through, if_pos rfl]
        rfl
    _ = _ := by rw [onward, Span.modifyHead_extend_nil, List.append_assoc]

/-- A span that is let through is opened in its context, and finished after the spans within. -/
theorem Meets.shown {inside rest : Forest} {opened next : Nat} {within after : List Span}
    (meets : (h.inward name level).Meets inside opened within)
    (later : ((h.cleared inside).onward opened [] (within ++ [((h.nextSpan name level).extend
      (inside.own h.filter)).close])).Meets rest next after) :
    h.Meets (.span name level inside rest) next ((if rest.resets then [] else
      within ++ [((h.nextSpan name level).extend (inside.own h.filter)).close]) ++ after) := by
  obtain ⟨met, tellsInside, numbered⟩ := meets
  obtain ⟨metLater, tellsRest, numberedLater⟩ := later
  rw [context?_onward] at tellsRest
  obtain ⟨named, leveled, first, fresh⟩ := h.nextSpan_fields name level
  have lies := h.liesIn_nextSpan name level
  have left : (((h.cleared inside).inward name level).onward opened (inside.own h.filter)
      within).leave level = (h.cleared inside).onward opened []
        (within ++ [((h.nextSpan name level).extend (inside.own h.filter)).close]) :=
    leave_inward (h := h.cleared inside) active admitted opened _ within
  refine ⟨?_, ?_, ?_⟩
  · change (h.inward name level).meet inside =
      ((h.cleared inside).inward name level).onward opened (inside.own h.filter) within at met
    rw [meet, enter_eq_inward active admitted, met, left, metLater, onward_cleared_onward, Forest.own,
      admitted, if_pos rfl]
    rfl
  · cases resets : rest.resets with
    | true => exact .forgotten resets tellsRest
    | false =>
        rw [if_neg Bool.false_ne_true, List.append_assoc]
        refine .shown resets admitted _ named leveled ⟨lies.id, lies.parent, lies.trace⟩ ?_
          tellsInside tellsRest
        change ((h.nextSpan name level).events ++ inside.own h.filter).take eventLimit = _
        rw [fresh, List.nil_append]
  · change (((h.nextSpan name level).extend (inside.own h.filter)).close).number = h.opened at first
    change Span.Numbered (h.opened + 1) opened within at numbered
    rw [← first] at numbered ⊢
    exact (numbered.close.cleared rest.resets).append numberedLater

end Shown

/-- **Whatever happens on an installed host**, the spans that are let through are finished in
order. -/
theorem exists_meets (forest : Forest) {h : Host} (active : h.installation.isActive = true) :
    ∃ opened spans, h.Meets forest opened spans := by
  induction forest generalizing h with
  | nil =>
      refine ⟨h.opened, [], ?_, .nil, .nil (Nat.le_refl _)⟩
      exact (onward_self h).symm
  | entry e rest ih =>
      obtain ⟨opened, spans, meets⟩ := ih (h := h.attach [e]) (by rwa [attach_eq_onward])
      exact ⟨opened, spans, meets.entry active⟩
  | reset rest ih =>
      obtain ⟨opened, spans, meets⟩ := ih (h := h.reset) active
      exact ⟨opened, spans, meets.reset⟩
  | span name level inside rest ihInside ihRest =>
      -- A span that is not let through is as if it were not there, and what is in it happens where
      -- the host is; otherwise it happens inside the span, and what follows happens where the host
      -- was.
      cases admitted : h.filter.admits level with
      | false =>
          obtain ⟨opened, within, meets⟩ := ihInside active
          obtain ⟨next, after, later⟩ := ihRest (h := (h.cleared inside).onward opened _ within)
            active
          exact ⟨next, _, meets.hidden active admitted later⟩
      | true =>
          obtain ⟨opened, within, meets⟩ := ihInside (h := h.inward name level) active
          obtain ⟨next, after, later⟩ := ihRest
            (h := (h.cleared inside).onward opened [] (within ++ [_])) active
          exact ⟨next, _, .shown active admitted meets later⟩

end Host

end Telemetry

end Metering
