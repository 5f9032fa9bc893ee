/-!
# JSON texts as documents

A document is a JSON text after reading: what is written, before anything is made of it. Members of
an object keep their order and repetitions, numbers their digits, and strings remember where they
hold something a plain text may not: half of a surrogate pair written as an escape, or a control
character written bare. Documents nest to any depth.
-/

set_option autoImplicit false

namespace MessageBroker

/-- One character of a string as written. -/
inductive TextUnit where
  | char (c : Char)
  /-- Half of a surrogate pair, from an escape. -/
  | surrogate (code : Nat)
  /-- A control character that is not escaped. -/
  | bareControl (c : Char)
  deriving DecidableEq, Repr

/-- A number as written. -/
structure NumberLiteral where
  negative : Bool
  /-- Digits before the point. -/
  whole : List Char
  /-- Digits after the point, if there is one. -/
  fraction : Option (List Char)
  /-- Sign and digits of the exponent, if there is one. -/
  exponent : Option (Bool × List Char)
  deriving DecidableEq, Repr

/-- A JSON text. -/
inductive Document where
  | null
  | bool (value : Bool)
  | number (literal : NumberLiteral)
  | string (units : List TextUnit)
  | array (items : List Document)
  | object (members : List (List TextUnit × Document))
  deriving Repr

namespace TextUnit

/-- True of a unit that is not a bare control character. -/
def isEscapedWell : TextUnit → Bool
  | bareControl _ => false
  | _ => true

/-- The character of a unit that is one. -/
def char? : TextUnit → Option Char
  | char c => some c
  | _ => none

/-- Bytes of a unit: UTF-8, with three bytes for half of a surrogate pair. -/
def bytes : TextUnit → List UInt8
  | char c => String.utf8EncodeChar c
  | bareControl c => String.utf8EncodeChar c
  | surrogate code =>
    [.ofNat (0xE0 + code / 0x1000), .ofNat (0x80 + code / 0x40 % 0x40), .ofNat (0x80 + code % 0x40)]

/-- A plain text; nothing when a unit is not a character. -/
def text? (units : List TextUnit) : Option String :=
  (units.mapM char?).map String.ofList

/-- The units of a plain text. -/
def ofText (s : String) : List TextUnit := s.toList.map char

theorem mapM_char?_map_char (cs : List Char) : (cs.map char).mapM char? = some cs := by
  induction cs with
  | nil => rfl
  | cons c rest ih => simp [char?, ih]

/-- A plain text reads back from its units. -/
theorem text?_ofText (s : String) : text? (ofText s) = some s := by
  rw [text?, ofText, mapM_char?_map_char, Option.map_some, String.ofList_toList]

end TextUnit

end MessageBroker
