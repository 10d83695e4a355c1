import WidgetRepair.Decimal.Shortest

/-! Numbers written with a fixed count of decimal places. The exact binary value is rounded,
and a value half way between two neighbours goes to the even one. -/

namespace WidgetRepair.Decimal

/-- A quotient rounded to the nearest natural number, ties to even. -/
def roundHalfEven (num den : Nat) : Nat :=
  let below := num / den
  let rest := 2 * (num % den)
  if rest < den || (rest = den && below % 2 = 0) then below else below + 1

/-- `x` with `places` decimal places. -/
def fixed (places : Nat) (x : Float) : String :=
  match Dyadic.ofBits? x.toBits with
  | none => if x.isNaN then "NaN" else if x < 0 then "-inf" else "inf"
  | some value =>
    let (num, den) := value.ratio
    let scaled := Nat.toDigits 10 (roundHalfEven (num * Nat.pow 10 places) den)
    let padded := List.replicate (places + 1 - scaled.length) '0' ++ scaled
    let whole := padded.take (padded.length - places)
    let rest := padded.drop (padded.length - places)
    let point := if places = 0 then [] else '.' :: rest
    String.ofList ((if value.negative then ['-'] else []) ++ whole ++ point)

end WidgetRepair.Decimal
