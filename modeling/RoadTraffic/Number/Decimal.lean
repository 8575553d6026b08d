import RoadTraffic.Number.Binary32

/-!
# Decimal texts of single precision numbers

Two texts of a number are in use.  Reports and messages show the *shortest*
text, the fewest digits that read back as the same single; tables show a fixed
number of decimal places.  Both are positional at every magnitude: there is no
exponent, and no point after a whole number.

* `Decimal.shortest` finds the digits by walking the decimal grids from coarse
  to fine: on the grid of step `10 ^ k` it looks at the two neighbours of the
  number, and stops at the first grid with a neighbour that rounds back to it.
* `Decimal.places` rounds the exact value, a half to the even digit.
* `Decimal.positional` writes either of them.
-/

namespace RoadTraffic

/-- The number `digits * 10 ^ exponent`. -/
structure Decimal where
  digits : Nat
  exponent : Int
deriving DecidableEq, Repr

namespace Decimal

/-- The decimal written without an exponent: whole numbers get no point, others
show exactly `-exponent` places and at least one digit before the point. -/
def positional (d : Decimal) : String :=
  let shown := toString d.digits
  if 0 ≤ d.exponent then
    if d.digits = 0 then "0" else shown ++ "".pushn '0' d.exponent.toNat
  else
    let count := (-d.exponent).toNat
    let padded := ("".pushn '0' (count + 1 - shown.length) ++ shown).toList
    let point := padded.length - count
    String.ofList (padded.take point ++ '.' :: padded.drop point)

/-!
## The fewest digits that read back

Around a positive single lie the numbers that round to it.  Counted in quarters
of a step they reach from `lowest` to `highest`, ends included when the
significand is even.
-/

/-- The numbers that round to one single, in quarters of a step, with the
single itself inside. -/
structure Interval where
  lowest : Nat
  value : Nat
  highest : Nat
  /-- Do the two ends themselves belong to the interval? -/
  closed : Bool

/-- The numbers that round to `significand * 2 ^ scale` steps.  Below a power of
two the singles lie twice as close. -/
def Interval.around (significand scale : Nat) : Interval where
  lowest := (4 * significand - if significand = 2 ^ 23 ∧ 0 < scale then 1 else 2) <<< scale
  value := (4 * significand) <<< scale
  highest := (4 * significand + 2) <<< scale
  closed := significand % 2 = 0

/-- The neighbour of the value on the grid of step `10 ^ k` that lies in the
interval; of two the nearer, and of two equally near ones the greater. -/
def Interval.gridPoint? (i : Interval) (k : Int) : Option Nat :=
  let finer := 10 ^ (-k).toNat
  let step := 10 ^ k.toNat * (4 * Binary32.stepsPerUnit)
  let value := i.value * finer
  let below := value / step
  let above := below + 1
  let fits (point : Nat) : Bool :=
    if i.closed then i.lowest * finer ≤ point * step ∧ point * step ≤ i.highest * finer
    else i.lowest * finer < point * step ∧ point * step < i.highest * finer
  let nearer := if 2 * (value - below * step) < step then below else above
  if fits nearer then some nearer
  else if fits below then some below
  else if fits above then some above
  else none

/-- Walks the grids `10 ^ k`, `10 ^ (k - 1)`, … to the first with a point in the
interval.  If none of the `grids` grids has one, the last grid's lower
neighbour is given. -/
def Interval.coarsest (i : Interval) (k : Int) : (grids : Nat) → Decimal
  | 0 => ⟨i.value * 10 ^ (-k).toNat / (10 ^ k.toNat * (4 * Binary32.stepsPerUnit)), k⟩
  | grids + 1 =>
    match i.gridPoint? k with
    | some point => ⟨point, k⟩
    | none => i.coarsest (k - 1) grids

/-- A power of ten above the magnitude: `10 ^ k` for the least `k` with
`1233 * bits ≤ 4096 * k`, where `2 ^ bits` is above it. -/
def powerAbove (steps : Nat) : Int :=
  let bits : Int := (steps.log2 : Int) + 1 - 149
  bits * 1233 / 4096 + 1

/-- The decimal of fewest digits that reads back as `significand * 2 ^ scale`
steps, and of those the nearest.  Nine digits always suffice, so twelve grids
do. -/
def shortest (significand scale : Nat) : Decimal :=
  if significand = 0 then ⟨0, 0⟩
  else
    (Interval.around significand scale).coarsest (powerAbove (significand <<< scale)) 12

/-!
## A fixed number of places
-/

/-- The magnitude of `steps` steps, rounded to `count` decimal places. -/
def places (count steps : Nat) : Decimal :=
  ⟨roundHalfEven (steps * 10 ^ count) Binary32.stepsPerUnit, -count⟩

/-!
## Texts
-/

/-- The text of a single whose magnitude, if finite, is written by `magnitude`.
Every NaN has the same text, and the sign of a zero is shown. -/
def signed (magnitude : Float32 → String) (x : Float32) : String :=
  if x.isNaN then "NaN"
  else (if Binary32.negative x then "-" else "") ++ if x.isFinite then magnitude x else "inf"

/-- The shortest text of a single, as in `0.1`, `-0`, `340000` or `inf`. -/
def text (x : Float32) : String :=
  signed (fun y => (shortest (Binary32.significand y) (Binary32.scale y)).positional) x

/-- The least positive single. -/
example : text (Float32.ofBits 1) = "0.000000000000000000000000000000000000000000001" := by
  decide +kernel

/-- The text of a single with a fixed number of decimal places. -/
def fixed (count : Nat) (x : Float32) : String :=
  signed (fun y => (places count (Binary32.steps y)).positional) x

/-- A half goes to the even digit. -/
example : fixed 2 0.125 = "0.12" ∧ fixed 2 0.375 = "0.38" := by decide +kernel

end Decimal

end RoadTraffic
