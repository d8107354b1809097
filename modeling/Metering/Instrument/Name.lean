import Metering.Error

/-!
# Names of instruments

A name holds between one and 255 characters, all of them printable ASCII. The rule is checked on
the UTF-8 bytes of the text, in an order that decides which fault is reported.
-/

namespace Metering

/-- What is wrong with a name. -/
inductive NameFault where
  | empty
  | unprintable
  | tooLong
deriving DecidableEq

/-- The wording of a fault. -/
def NameFault.reason : NameFault → String
  | .empty => "name must not be empty"
  | .unprintable => "name must contain only printable ASCII characters"
  | .tooLong => "name must not exceed 255 characters"

namespace Name

/-- The bytes of a text in UTF-8. -/
def bytes (name : String) : List UInt8 :=
  name.toList.flatMap String.utf8EncodeChar

/-- Whether a byte is a printable ASCII character. -/
def isPrintable (byte : UInt8) : Bool :=
  0x20 ≤ byte && byte ≤ 0x7e

/-- The fault of a name that breaks the rule. -/
def fault? (name : String) : Option NameFault :=
  if (bytes name).isEmpty then some .empty
  else if !(bytes name).all isPrintable then some .unprintable
  else if 255 < (bytes name).length then some .tooLong
  else none

/-- Refuses a name that breaks the rule. -/
def validate (name : String) : Except Error Unit :=
  match fault? name with
  | some fault => .error (.invalidName name fault.reason)
  | none => .ok ()

end Name

end Metering
