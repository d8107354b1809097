import Metering.Journal

/-!
# Filters

A filter lets through what is at least as severe as its level, or nothing. It is chosen by the name
of a level in letters of either case, by the word for none, or, if nothing is chosen, by default.
-/

namespace Metering.Telemetry

/-- What is let through: everything up to a level, or nothing. -/
inductive Filter where
  | off
  | upTo (level : Level)
deriving DecidableEq, Inhabited

namespace Filter

/-- The filter in force when none is chosen. -/
def byDefault : Filter :=
  .upTo .info

/-- The filter that a word chooses. Only words for levels and the word for none are read here, and
any other chooses the default. A host whose filters can also name targets would read another word as
the name of a target, and let through what comes from there alone; words of that kind are not
described. -/
def ofWord (word : String) : Filter :=
  let capitals := word.toUpper
  if capitals == "OFF" then .off
  else ((Level.ofName? capitals).map Filter.upTo).getD byDefault

/-- The filter that an optional word chooses. -/
def ofChoice : Option String → Filter
  | none => byDefault
  | some word => ofWord word

/-- Whether something of a level is let through. -/
def admits : Filter → Level → Bool
  | .off, _ => false
  | .upTo bound, level => level.rank ≤ bound.rank

end Filter

end Metering.Telemetry
