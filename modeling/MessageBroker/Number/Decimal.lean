/-!
# Decimal digits

Natural numbers in decimal, and the numbers written as a run of ASCII digits.
-/

set_option autoImplicit false

namespace MessageBroker.Decimal

/-- Digits of a number, without leading zeros. -/
def digits (n : Nat) : List Char := Nat.toDigits 10 n

/-- Digits of a number, filled up with zeros from the left. -/
def padded (width n : Nat) : List Char :=
  List.replicate (width - (digits n).length) '0' ++ digits n

/-- Value of a run of digits. -/
def value (cs : List Char) : Nat := Nat.ofDigitChars 10 cs 0

/-- A whole text that is a run of digits, at least one. -/
def read? (cs : List Char) : Option Nat :=
  if cs ≠ [] ∧ cs.all Char.isDigit then some (value cs) else none

/-- An unsigned number of 64 bits: digits after an optional plus sign, leading zeros allowed. -/
def readWord? (cs : List Char) : Option UInt64 :=
  let unsigned := match cs with
    | '+' :: rest => rest
    | cs => cs
  match read? unsigned with
  | some n => if n < Nat.pow 2 64 then some (.ofNat n) else none
  | none => none

/-- Drops a sign. -/
def unsigned (cs : List Char) : List Char :=
  match cs with
  | '+' :: rest => rest
  | '-' :: rest => rest
  | cs => cs

/-- True of an empty text and of an exponent. -/
def isExponentOrEmpty : List Char → Bool
  | [] => true
  | c :: rest => (c == 'e' || c == 'E') && (read? (unsigned rest)).isSome

/-- True of the texts of real numbers: digits with an optional point, at least one digit, with an
optional sign and exponent, or the name of an infinity or of no number. -/
def isReal (cs : List Char) : Bool :=
  let cs := unsigned cs
  let (whole, rest) := cs.span Char.isDigit
  let (fraction, rest) := match rest with
    | '.' :: rest => rest.span Char.isDigit
    | rest => ([], rest)
  ["inf", "infinity", "nan"].contains (String.ofList (cs.map Char.toLower)) ||
    (!(whole ++ fraction).isEmpty && isExponentOrEmpty rest)

theorem value_digits (n : Nat) : value (digits n) = n := by
  simp [value, digits]

theorem isDigit_of_mem_digits {n : Nat} {c : Char} (h : c ∈ digits n) : c.isDigit = true :=
  Nat.isDigit_of_mem_toDigits (by decide) (by decide) h

theorem digits_ne_nil (n : Nat) : digits n ≠ [] := Nat.toDigits_ne_nil

/-- What is written reads back. -/
theorem read?_digits (n : Nat) : read? (digits n) = some n := by
  have all_digits : (digits n).all Char.isDigit = true :=
    List.all_eq_true.mpr fun _ member => isDigit_of_mem_digits member
  simp [read?, digits_ne_nil, all_digits, value_digits]

end MessageBroker.Decimal
