import MessageBroker.Number.Hexadecimal

/-!
# Unique identifiers

An identifier of 128 bits, kept as its 32 hexadecimal digits. It is written in lower case with
hyphens after 8, 12, 16 and 20 digits. It is read in that form, without any hyphen, in braces, or
behind `urn:uuid:`, with letters in either case.
-/

set_option autoImplicit false

namespace MessageBroker

/-- An identifier of 32 hexadecimal digits. -/
@[ext] structure Uuid where
  digits : List (Fin 16)
  length_digits : digits.length = 32
  deriving DecidableEq

namespace Uuid

/-- The identifier whose digits are those of a number. -/
def ofNat (n : Nat) : Uuid where
  digits := (List.range 32).map fun i => Fin.ofNat 16 (n / Nat.pow 16 (31 - i))
  length_digits := by simp

/-- One digit. -/
def digitChar (digit : Fin 16) : Char := digit.val.digitChar

/-- Value of one digit. -/
def digit? (c : Char) : Option (Fin 16) := (Hexadecimal.digit? c).map (Fin.ofNat 16)

/-- Lengths of the hyphenated groups. -/
def groupLengths : List Nat := [8, 4, 4, 4, 12]

/-- Cuts a list into groups of the given lengths. -/
def groups {α : Type} : List Nat → List α → List (List α)
  | [], _ => []
  | n :: lengths, items => items.take n :: groups lengths (items.drop n)

/-- Hyphenated form. -/
def chars (id : Uuid) : List Char :=
  ['-'].intercalate (groups groupLengths (id.digits.map digitChar))

/-- Hyphenated form as a text. -/
def text (id : Uuid) : String := String.ofList id.chars

/-- An identifier from its digits. -/
def ofDigits? (cs : List Char) : Option Uuid :=
  match cs.mapM digit? with
  | some digits => if h : digits.length = 32 then some ⟨digits, h⟩ else none
  | none => none

/-- Drops the hyphens of a hyphenated form. -/
def unhyphenate? : List Nat → List Char → Option (List Char)
  | [], _ => none
  | [n], cs => if cs.length = n then some cs else none
  | n :: lengths, cs =>
    match cs.drop n with
    | '-' :: rest => (unhyphenate? lengths rest).map (cs.take n ++ ·)
    | _ => none

/-- Reads a hyphenated form. -/
def readHyphenated? (cs : List Char) : Option Uuid :=
  (unhyphenate? groupLengths cs).bind ofDigits?

/-- Reads any of the four forms. -/
def read? (s : String) : Option Uuid :=
  let cs := s.toList
  if cs.length = 32 then ofDigits? cs
  else if cs.length = 38 ∧ cs.head? = some '{' ∧ cs.getLast? = some '}' then
    readHyphenated? (cs.tail.take 36)
  else if cs.length = 45 ∧ (cs.take 9).map Char.toLower = "urn:uuid:".toList then
    readHyphenated? (cs.drop 9)
  else readHyphenated? cs

end Uuid

end MessageBroker
