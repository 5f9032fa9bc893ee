import MessageBroker.Number.Binary64
import MessageBroker.Number.Decimal

/-!
# Doubles from decimal text

A decimal number with a fraction or an exponent is read as a double in one scaling step: the leading
digits that fit 64 bits, taken as a whole number, are multiplied or divided by a power of ten that
is itself a double. Only an exponent below -308 takes further steps. The digits after the first one
that no longer fits are dropped, those before the point counted in the exponent. A result beyond the
largest double has no value.
-/

set_option autoImplicit false

namespace MessageBroker.Scaled

/-- Largest power of ten that is a double. -/
def largestPower : Nat := 308

/-- Takes digits into a whole number while it fits 64 bits; counts those taken. -/
def accumulate (significand : Nat) : List Char → Nat × Nat
  | [] => (significand, 0)
  | c :: rest =>
    let next := 10 * significand + (c.toNat - '0'.toNat)
    if next < Nat.pow 2 64 then
      let (significand, taken) := accumulate next rest
      (significand, taken + 1)
    else (significand, 0)

/-- Scales a double by `10^exponent`; a very small exponent is worked off in steps, of which four
reach zero. -/
def scale? (steps : Nat) (a : Magnitude) (exponent : Int) : Option Magnitude :=
  if exponent.natAbs ≤ largestPower then do
    let power ← Magnitude.ofRatio? (Nat.pow 10 exponent.natAbs) 1
    if 0 ≤ exponent then a.mul? power else a.div? power
  else if a.mantissa = 0 then some .zero
  else if 0 ≤ exponent then none
  else match steps with
    | 0 => some .zero
    | steps + 1 => do
      let power ← Magnitude.ofRatio? (Nat.pow 10 largestPower) 1
      let a ← a.div? power
      scale? steps a (exponent + largestPower)

/-- The double written with these digits before and after the point and this exponent. -/
def read? (whole fraction : List Char) (exponent : Int) : Option Magnitude := do
  let (significand, wholeTaken) := accumulate 0 whole
  let (significand, fractionTaken) := accumulate significand fraction
  let dropped := whole.length - wholeTaken
  let start ← Magnitude.ofRatio? significand 1
  scale? 4 start (exponent + dropped - fractionTaken)

end MessageBroker.Scaled
