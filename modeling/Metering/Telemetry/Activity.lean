import Metering.State.Order
import Metering.Telemetry.Host

/-!
# What a program does with its host

A program carries out commands and opens spans, to any depth, with commands before, between and
after the spans that lie in a span. It may have the finished spans forgotten at any time, also while
spans are open. What it does goes on whatever a command is answered. While no span is open it may
also install, and set someone else's receiver.
-/

namespace Metering.Telemetry

/-- What a program does: nothing more; a command and then the rest; a span, with what is done in it,
and then the rest; or it has the finished spans forgotten, and then the rest. -/
inductive Activity where
  | done
  | command (command : OrderedCommand) (rest : Activity)
  | span (name : String) (level : Level) (inside rest : Activity)
  | reset (rest : Activity)

/-- A deed of a program, done while no span is open. -/
inductive Deed where
  | install
  | setForeign
  | act (activity : Activity)

namespace Host

/-- Carries out a command; the journal entries it writes go to the innermost open span. -/
def execute (h : Host) (command : OrderedCommand) : Answer × Host :=
  let (answer, state) := h.state.executeIn command
  (answer, { h with state := state }.attach (state.journal.drop h.state.journal.length))

/-- The host after a program did something. -/
def act (h : Host) : Activity → Host
  | .done => h
  | .command command rest => (h.execute command).2.act rest
  | .span name level inside rest => (((h.enter name level).act inside).leave level).act rest
  | .reset rest => h.reset.act rest

/-- The host after a deed. -/
def undergo (h : Host) : Deed → Host
  | .install => h.install.2
  | .setForeign => h.setForeign.2
  | .act activity => h.act activity

/-- The host after several deeds in turn. -/
def live (h : Host) (deeds : List Deed) : Host :=
  deeds.foldl undergo h

end Host

end Metering.Telemetry
