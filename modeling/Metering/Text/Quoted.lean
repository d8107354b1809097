import Metering.Text.Glyph

/-!
# Quoted text

A text between double quotes in which the quote, the backslash and every character without a glyph
of its own is spelled by an escape. Four characters have a letter as their escape; the others are
spelled by their code point in lower-case hexadecimal, without padding.
-/

namespace Metering.Text

/-- A number in lower-case hexadecimal, without padding. -/
def hexNumber (n : Nat) : List Char :=
  Nat.toDigits 16 n

/-- A character spelled by its code point. -/
def codeEscape (c : Char) : List Char :=
  ['\\', 'u', '\x7b'] ++ hexNumber c.toNat ++ ['\x7d']

/-- The spelling of one character inside quotes. -/
def escapeChar (c : Char) : List Char :=
  if c = '\x00' then ['\\', '0']
  else if c = '\t' then ['\\', 't']
  else if c = '\n' then ['\\', 'n']
  else if c = '\r' then ['\\', 'r']
  else if c = '\x22' then ['\\', '\x22']
  else if c = '\\' then ['\\', '\\']
  else if isAttached c || isBlank c then codeEscape c
  else [c]

/-- A text between double quotes, escaped where needed. -/
def quote (s : String) : String :=
  String.ofList ('\x22' :: s.toList.flatMap escapeChar ++ ['\x22'])

/-- An optional text: the word for absence, or the quoted text in its wrapper. -/
def quoteOption : Option String → String
  | none => "None"
  | some s => "Some(" ++ quote s ++ ")"

/-- A list of texts between brackets. -/
def quoteList (xs : List String) : String :=
  "[" ++ ", ".intercalate (xs.map quote) ++ "]"

/-- Pairs of texts between braces, in the order given. -/
def quotePairs (xs : List (String × String)) : String :=
  "\x7b" ++ ", ".intercalate (xs.map fun p => quote p.1 ++ ": " ++ quote p.2) ++ "\x7d"

/-- One printed field of a value: its name and the text of what it holds. -/
structure Field where
  name : String
  text : String

/-- The text of a value that shows all its fields. -/
def closedForm (name : String) (fields : List Field) : String :=
  name ++ " \x7b " ++ ", ".intercalate (fields.map fun f => f.name ++ ": " ++ f.text) ++ " \x7d"

/-- The text of a value that leaves some of its fields out. -/
def openForm (name : String) (fields : List Field) : String :=
  name ++ " \x7b " ++ String.join (fields.map fun f => f.name ++ ": " ++ f.text ++ ", ") ++
    ".. \x7d"

/-- The text of a truth value. -/
def ofBool (b : Bool) : String :=
  if b then "true" else "false"

end Metering.Text
