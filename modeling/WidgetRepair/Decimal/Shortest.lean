/-! The fewest decimal digits that read back to a given binary value, found by exact natural
arithmetic: the first decimal grid with a point inside the rounding interval wins, and of two
such points the nearer one. -/

namespace WidgetRepair.Decimal

/-- The magnitude `mantissa · 2 ^ exponent` with its sign. -/
structure Dyadic where
  negative : Bool
  mantissa : Nat
  exponent : Int

/-- The exact value of a finite binary64 word. -/
def Dyadic.ofBits? (bits : UInt64) : Option Dyadic :=
  let word := bits.toNat
  let field : Nat := word / Nat.pow 2 52 % 2048
  let fraction : Nat := word % Nat.pow 2 52
  let negative := word / Nat.pow 2 63 == 1
  if field = 2047 then none
  else if field = 0 then some ⟨negative, fraction, -1074⟩
  else some ⟨negative, fraction + Nat.pow 2 52, (field : Int) - 1075⟩

/-- Numerator and denominator of the magnitude. -/
def Dyadic.ratio (x : Dyadic) : Nat × Nat :=
  if 0 ≤ x.exponent then (x.mantissa * Nat.pow 2 x.exponent.toNat, 1)
  else (x.mantissa, Nat.pow 2 (-x.exponent).toNat)

/-- The decimal exponent of the leading digit of a positive quotient. -/
def leadingExponent (num den : Nat) : Int :=
  if den ≤ num then ((Nat.toDigits 10 (num / den)).length : Int) - 1
  else -((Nat.toDigits 10 ((den + num - 1) / num - 1)).length : Int)

/-- A quotient counted in units of a power of ten. -/
def inUnits (num den : Nat) (unit : Int) : Nat × Nat :=
  if 0 ≤ unit then (num, den * Nat.pow 10 unit.toNat) else (num * Nat.pow 10 (-unit).toNat, den)

/-- The decimal `digits · 10 ^ unit`. -/
structure Numeral where
  digits : Nat
  unit : Int

/-- Whether `count` units of a grid round to the value `num / den` units, whose binary mantissa
is `mantissa`. The interval reaches half a step up and half a step down, only a quarter down
from a power of two, and its ends count when the mantissa is even. -/
def roundsTo (x : Dyadic) (num den count : Nat) : Bool :=
  let below := if x.mantissa = Nat.pow 2 52 && x.exponent != -1074 then 1 else 2
  let point := count * 4 * x.mantissa * den
  let low := num * (4 * x.mantissa - below)
  let high := num * (4 * x.mantissa + 2)
  if x.mantissa % 2 = 0 then low ≤ point && point ≤ high else low < point && point < high

/-- The decimal with `places` digits that rounds to `x`, if the grid has one. -/
def onGrid? (x : Dyadic) (places : Nat) : Option Numeral :=
  let (num, den) := x.ratio
  let unit := leadingExponent num den - places + 1
  let (num, den) := inUnits num den unit
  let below := num / den
  let above := below + 1
  match roundsTo x num den below, roundsTo x num den above with
  | true, true =>
    let down := num - below * den
    let up := above * den - num
    some ⟨if down < up || (down = up && below % 2 = 0) then below else above, unit⟩
  | true, false => some ⟨below, unit⟩
  | false, true => some ⟨above, unit⟩
  | false, false => none

/-- The shortest decimal that reads back to a positive `x`; seventeen digits always do. -/
def shortest (x : Dyadic) : Numeral :=
  ((List.range 17).findSome? fun n => onGrid? x (n + 1)).getD ⟨x.mantissa, 0⟩

/-- The digits of a decimal without trailing zeros, and the exponent of the leading one. -/
def Numeral.significant (d : Numeral) : List Char × Int :=
  let digits := Nat.toDigits 10 d.digits
  ((digits.reverse.dropWhile (· == '0')).reverse, d.unit + digits.length - 1)

end WidgetRepair.Decimal
