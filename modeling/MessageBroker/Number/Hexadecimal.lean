/-!
# Hexadecimal digits
-/

set_option autoImplicit false

namespace MessageBroker.Hexadecimal

/-- Digits of a number in lower case, without leading zeros. -/
def digits (n : Nat) : List Char := Nat.toDigits 16 n

/-- Value of a digit in either case. -/
def digit? (c : Char) : Option Nat :=
  if c.isDigit then some (c.toNat - '0'.toNat)
  else if 'a' ≤ c ∧ c ≤ 'f' then some (c.toNat - 'a'.toNat + 10)
  else if 'A' ≤ c ∧ c ≤ 'F' then some (c.toNat - 'A'.toNat + 10)
  else none

end MessageBroker.Hexadecimal
