/-!
# Refused requests

The ways in which a request can be refused, each with the values its message names. Every refusal
belongs to one of three categories: the arguments are at fault, the object is no longer in a state
to answer, or a required argument is missing.
-/

namespace Metering

/-- Why a request is refused. -/
inductive Error where
  | invalidName (name reason : String)
  | oddLabelSequence (len : Nat)
  | negativeValue (instrument value : String)
  | conflictingRegistration (name : String)
  | unknownBinding (instrument labels : String)
  | foreignInstrument (instrument owner : String)
  | missingArgument (argument : String)
  | batchSpent (labels : String)
  | bindingReleased (instrument labels : String)
deriving DecidableEq

namespace Error

/-- What is at fault when a request is refused. -/
inductive Category where
  | invalidArgument
  | illegalState
  | missingArgument
deriving DecidableEq

/-- The category of a refusal. -/
def category : Error → Category
  | .invalidName .. | .oddLabelSequence .. | .negativeValue .. | .conflictingRegistration ..
  | .unknownBinding .. | .foreignInstrument .. => .invalidArgument
  | .missingArgument .. => .missingArgument
  | .batchSpent .. | .bindingReleased .. => .illegalState

/-- Whether the arguments are at fault. -/
def isInvalidArgument (e : Error) : Bool :=
  e.category == .invalidArgument

/-- Whether the object is no longer in a state to answer. -/
def isIllegalState (e : Error) : Bool :=
  e.category == .illegalState

/-- The message of a refusal. -/
def message : Error → String
  | .invalidName name reason => "invalid instrument name `" ++ name ++ "`: " ++ reason
  | .oddLabelSequence len =>
    "label key/value sequence must have an even length, got " ++ toString len ++ " elements"
  | .negativeValue instrument value =>
    "instrument `" ++ instrument ++ "` only accepts non-negative values, got " ++ value
  | .conflictingRegistration name =>
    "instrument `" ++ name ++ "` is already registered with a different configuration"
  | .unknownBinding instrument labels =>
    "instrument `" ++ instrument ++ "` has no live binding for labels " ++ labels
  | .foreignInstrument instrument owner =>
    "instrument `" ++ instrument ++ "` does not belong to `" ++ owner ++ "`"
  | .missingArgument argument => "required argument `" ++ argument ++ "` is absent"
  | .batchSpent labels =>
    "batch recorder for labels " ++ labels ++ " has already been recorded"
  | .bindingReleased instrument labels =>
    "binding of instrument `" ++ instrument ++ "` for labels " ++ labels ++ " has been released"

end Error

/-- Why an operation on referenced objects did nothing: an object is not there, a value or an
object is of the wrong type, or the request is refused. -/
inductive Failure where
  | absent
  | mistyped
  | refused (error : Error)
deriving DecidableEq

end Metering
