/-!
# Double-precision numbers

Finite numbers of the form `±m · 2^e` with `m < 2^53` and `e ≥ -1074`, where `m ≥ 2^52` unless
`e = -1074`. A quotient of naturals rounds to the nearest of them and a tie goes to the even
mantissa. Products and quotients are exact until that one rounding.
-/

set_option autoImplicit false

namespace MessageBroker

/-- The absolute value `mantissa · 2^exponent` of a double. -/
structure Magnitude where
  mantissa : Nat
  exponent : Int
  deriving DecidableEq, Repr

/-- A finite double; zero has a sign. -/
structure Binary64 where
  negative : Bool
  magnitude : Magnitude
  deriving DecidableEq, Repr

namespace Magnitude

/-- Smallest exponent. -/
def minExponent : Int := -1074

/-- Largest exponent. -/
def maxExponent : Int := 971

/-- The quotient `n / d` of a natural and `2^e`, as numerator and denominator. -/
def scaleDown (n d : Nat) (e : Int) : Nat × Nat :=
  (n * Nat.pow 2 (-e).toNat, d * Nat.pow 2 e.toNat)

/-- A quotient rounded to the nearest natural, ties to even. -/
def roundHalfEven (n d : Nat) : Nat :=
  let quotient := n / d
  let remainder := n % d
  if 2 * remainder < d then quotient
  else if d < 2 * remainder then quotient + 1
  else quotient + quotient % 2

/-- Exponent under which `n / d` has a mantissa of 53 bits, or the smallest exponent. -/
def exponentOf (n d : Nat) : Int :=
  let guess : Int := (n.log2 : Int) - (d.log2 : Int) - 52
  let (p, q) := scaleDown n d guess
  let exact := if p / q < Nat.pow 2 52 then guess - 1 else guess
  max exact minExponent

/-- The double nearest to `n / d`, if it is finite. -/
def ofRatio? (n d : Nat) : Option Magnitude :=
  let exponent := exponentOf n d
  let (p, q) := scaleDown n d exponent
  let mantissa := roundHalfEven p q
  let rounded : Magnitude :=
    if mantissa = Nat.pow 2 53 then ⟨Nat.pow 2 52, exponent + 1⟩ else ⟨mantissa, exponent⟩
  if maxExponent < rounded.exponent then none else some rounded

/-- Zero. -/
def zero : Magnitude := ⟨0, minExponent⟩

/-- Numerator and denominator of a double. -/
def ratio (a : Magnitude) : Nat × Nat :=
  (a.mantissa * Nat.pow 2 a.exponent.toNat, Nat.pow 2 (-a.exponent).toNat)

/-- Product, rounded. -/
def mul? (a b : Magnitude) : Option Magnitude :=
  ofRatio? (a.ratio.1 * b.ratio.1) (a.ratio.2 * b.ratio.2)

/-- Quotient by a double other than zero, rounded. -/
def div? (a b : Magnitude) : Option Magnitude :=
  ofRatio? (a.ratio.1 * b.ratio.2) (a.ratio.2 * b.ratio.1)

end Magnitude

end MessageBroker
