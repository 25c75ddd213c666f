import GraphDriver.Number.Double

/-!
# Shortest decimal text of a double

The reals that round to a finite double form an interval around it, with its ends included exactly
when the significand is even. The shortest decimal of the double is the point of that interval on
the coarsest decimal grid that meets it. If there are two it is the nearer one, and the greater of
two that are equally near. All arithmetic is on natural numbers.
-/

namespace GraphDriver.Double

/-- A decimal number `digits * 10 ^ power`. -/
structure Decimal where
  digits : Nat
  power : Int
deriving DecidableEq

/-- The interval of a double in quarters of `2 ^ exponent`: its centre and its two ends. Below a
power of two the doubles lie twice as dense. -/
structure Interval where
  low : Nat
  centre : Nat
  high : Nat
  closed : Bool

def interval (d : Double) : Interval :=
  let m := d.significand
  let denseBelow := d.fraction = 0 ∧ 1 < d.biasedExponent
  { low := 4 * m - (if denseBelow then 1 else 2)
    centre := 4 * m
    high := 4 * m + 2
    closed := m % 2 = 0 }

/-- The better of the two neighbours of the centre on the grid of multiples of `10 ^ power`, if one
of them lies in the interval. `quarter` is the power of two that the interval is counted in. -/
def Interval.onGrid (i : Interval) (quarter power : Int) : Option Decimal :=
  let up := Nat.pow 10 (-power).toNat <<< quarter.toNat
  let down := Nat.pow 10 power.toNat <<< (-quarter).toNat
  let inside (c : Nat) : Bool :=
    if i.closed then i.low * up ≤ c * down && c * down ≤ i.high * up
    else i.low * up < c * down && c * down < i.high * up
  let below := i.centre * up / down
  let above := below + 1
  let nearer := above * down - i.centre * up ≤ i.centre * up - below * down
  if inside below && !(inside above && nearer) then some ⟨below, power⟩
  else if inside above then some ⟨above, power⟩
  else none

/-- Tries the grids `power`, `power - 1`, … in turn. -/
def Interval.search (i : Interval) (quarter : Int) : Nat → Int → Option Decimal
  | 0, _ => none
  | tries + 1, power =>
    match i.onGrid quarter power with
    | some decimal => some decimal
    | none => i.search quarter tries (power - 1)

/-- The shortest decimal that reads back as the magnitude of a finite nonzero double. No double
reaches `10 ^ 309`, and the grid of `10 ^ -342` is finer than the gap between any two doubles. -/
def shortest (d : Double) : Option Decimal :=
  d.interval.search (d.exponent - 2) 652 309

/-- Places the point in a digit string that stands for `0.digits * 10 ^ point`. -/
def positional (digits : String) (point : Int) : String :=
  if point ≤ 0 then
    "0." ++ String.ofList (List.replicate (-point).toNat '0') ++ digits
  else
    let whole := digits.toList.take point.toNat
    let pad := List.replicate (point.toNat - digits.length) '0'
    let rest := digits.toList.drop point.toNat
    String.ofList (whole ++ pad) ++ "." ++ (if rest.isEmpty then "0" else String.ofList rest)

/-- Scientific notation with the point after the first digit and a bare exponent. -/
def scientific (digits : String) (point : Int) : String :=
  let rest := digits.toList.drop 1
  String.ofList (digits.toList.take 1) ++ (if rest.isEmpty then "" else "." ++ String.ofList rest)
    ++ "e" ++ toString (point - 1)

/-- The diagnostic text of a double: the shortest digits, positional from `0.0001` up to `10 ^ 16`
and scientific outside, always recognisable as a fractional number. -/
def describe (d : Double) : String :=
  let sign := if d.isNegative then "-" else ""
  if d.isNaN then "NaN"
  else if d.isInfinite then sign ++ "inf"
  else if d.significand = 0 then sign ++ "0.0"
  else
    match d.shortest with
    | none => sign ++ "0.0"
    | some decimal =>
      let digits := toString decimal.digits
      let point := digits.length + decimal.power
      if -4 < point ∧ point ≤ 16 then sign ++ positional digits point
      else sign ++ scientific digits point

end GraphDriver.Double
