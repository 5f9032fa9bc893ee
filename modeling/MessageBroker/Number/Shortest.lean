import MessageBroker.Number.Binary64
import MessageBroker.Number.Decimal

/-!
# Shortest decimal text of a double

The fewest decimal digits that read back as the same double; among equally short ones the nearest,
and of two equally near ones the even. On the grid of decimals with a given number of digits only
the two neighbours of the double need a test. The text is positional while the point stands at most
16 digits after the first digit or at most 4 zeros before it, and has an exponent otherwise, which
always shows its sign; a whole number keeps `.0`.
-/

set_option autoImplicit false

namespace MessageBroker.Shortest

/-- A decimal `digits · 10^exponent`. -/
structure DecimalFloat where
  digits : Nat
  exponent : Int
  deriving DecidableEq, Repr

/-- Numbers that round to a double: between the two bounds, which count when the mantissa is even.
All three numbers are over one denominator. -/
structure Neighbourhood where
  low : Nat
  center : Nat
  high : Nat
  denominator : Nat
  closed : Bool

/-- Neighbourhood of a double other than zero. The gap below a power of two is half as wide. -/
def neighbourhood (a : Magnitude) : Neighbourhood :=
  let gap := if a.mantissa = Nat.pow 2 52 ∧ Magnitude.minExponent < a.exponent then 1 else 2
  let unit := Nat.pow 2 (a.exponent - 2).toNat
  { low := (4 * a.mantissa - gap) * unit
    center := 4 * a.mantissa * unit
    high := (4 * a.mantissa + 2) * unit
    denominator := Nat.pow 2 (2 - a.exponent).toNat
    closed := a.mantissa % 2 = 0 }

/-- True of the decimals `n · 10^e` in the neighbourhood. -/
def Neighbourhood.holds (around : Neighbourhood) (n : Nat) (e : Int) : Bool :=
  let point := n * Nat.pow 10 e.toNat * around.denominator
  let factor := Nat.pow 10 (-e).toNat
  if around.closed then around.low * factor ≤ point && point ≤ around.high * factor
  else around.low * factor < point && point < around.high * factor

/-- The nearer of `n` and `n + 1` on the grid `10^e`; the even one at equal distance. -/
def Neighbourhood.nearer (around : Neighbourhood) (n : Nat) (e : Int) : Nat :=
  let step := Nat.pow 10 e.toNat * around.denominator
  let center := around.center * Nat.pow 10 (-e).toNat
  let below := center - n * step
  let above := (n + 1) * step - center
  if below < above then n else if above < below then n + 1 else n + n % 2

/-- The best decimal on the grid `10^e`, if the grid has one in the neighbourhood. -/
def Neighbourhood.onGrid? (around : Neighbourhood) (e : Int) : Option DecimalFloat :=
  let n := around.center * Nat.pow 10 (-e).toNat / (around.denominator * Nat.pow 10 e.toNat)
  match around.holds n e, around.holds (n + 1) e with
  | true, true => some ⟨around.nearer n e, e⟩
  | true, false => some ⟨n, e⟩
  | false, true => some ⟨n + 1, e⟩
  | false, false => none

/-- Exponent `k` with `10^(k-1) ≤ center < 10^k`. -/
def Neighbourhood.decimalExponent (around : Neighbourhood) : Int :=
  let whole := around.center / around.denominator
  if 0 < whole then (Decimal.digits whole).length
  else
    let zeros := (List.range 330).find? fun j =>
      around.denominator ≤ around.center * Nat.pow 10 (j + 1)
    Int.negOfNat (zeros.getD 330)

/-- Moves trailing zeros of the digits into the exponent. -/
def DecimalFloat.strip : Nat → DecimalFloat → DecimalFloat
  | 0, d => d
  | steps + 1, d =>
    if d.digits ≠ 0 ∧ d.digits % 10 = 0 then strip steps ⟨d.digits / 10, d.exponent + 1⟩ else d

/-- Shortest decimal of a double other than zero: the coarsest grid with a hit. Seventeen digits
always suffice. -/
def ofMagnitude (a : Magnitude) : DecimalFloat :=
  let around := neighbourhood a
  let k := around.decimalExponent
  let found := (List.range 17).findSome? fun (n : Nat) => around.onGrid? (k - (n + 1))
  (found.getD ⟨0, 0⟩).strip 20

/-- Text of an exponent with its sign. -/
def exponentText (power : Int) : List Char :=
  if power < 0 then '-' :: Decimal.digits power.natAbs else '+' :: Decimal.digits power.natAbs

/-- Text of a decimal. -/
def DecimalFloat.text (d : DecimalFloat) : List Char :=
  let ds := Decimal.digits d.digits
  let count : Int := ds.length
  let point := count + d.exponent
  if 0 ≤ d.exponent ∧ point ≤ 16 then
    ds ++ List.replicate d.exponent.toNat '0' ++ ['.', '0']
  else if 0 < point ∧ point ≤ 16 then ds.take point.toNat ++ '.' :: ds.drop point.toNat
  else if -5 < point ∧ point ≤ 0 then
    ['0', '.'] ++ List.replicate (-point).toNat '0' ++ ds
  else
    let power := exponentText (point - 1)
    match ds with
    | [c] => c :: 'e' :: power
    | c :: rest => c :: '.' :: rest ++ 'e' :: power
    | [] => []

/-- Text of a double. -/
def text (x : Binary64) : List Char :=
  let unsigned :=
    if x.magnitude.mantissa = 0 then ['0', '.', '0'] else (ofMagnitude x.magnitude).text
  if x.negative then '-' :: unsigned else unsigned

end MessageBroker.Shortest
