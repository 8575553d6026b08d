import RoadTraffic.Number.Decimal

/-!
# Comparing, clamping and checking singles

Smallest and greatest values that pass over NaN, the clamp to the unit interval,
the whole part, and the check that every number given from outside goes through
before it may be driven on.
-/

namespace RoadTraffic

namespace Scalar

/-- The lesser of two numbers; of a number and a NaN the number. -/
def lesser (a b : Float32) : Float32 :=
  if a.isNaN then b else if b < a then b else a

/-- The greater of two numbers; of a number and a NaN the number. -/
def greater (a b : Float32) : Float32 :=
  if a.isNaN then b else if a < b then b else a

/-- The nearest number between 0 and 1.  A NaN stays a NaN. -/
def clampUnit (t : Float32) : Float32 :=
  let raised := if t < 0 then 0 else t
  if 1 < raised then 1 else raised

/-- The whole part of a number: 0 for negative ones and NaN, and at most the
greatest 64-bit word. -/
def wholePart (x : Float32) : Nat := x.toUInt64.toNat

/-- A small natural number as a single. -/
def ofNat (n : Nat) : Float32 := (UInt32.ofNat n).toFloat32

end Scalar

/-- Why a number is refused that has to be finite. -/
inductive NotFinite where
  | nan
  | infinite (value : Float32)
deriving DecidableEq

/-- What is wrong, outermost text first. -/
def NotFinite.chain : NotFinite → List String
  | .nan => ["Value is NaN", "NotNan constructed with NaN"]
  | .infinite value => ["Value " ++ Decimal.text value ++ " is not finite"]

/-- Refuses NaN and the infinities. -/
def checkFinite (x : Float32) : Except NotFinite Unit :=
  if x.isNaN then .error .nan
  else if x.isFinite then .ok ()
  else .error (.infinite x)

/-- A chain of texts, outermost first, in one line. -/
def chainText (chain : List String) : String := ": ".intercalate chain

theorem checkFinite_eq_ok_iff (x : Float32) :
    checkFinite x = .ok () ↔ x.isNaN = false ∧ x.isFinite = true := by
  unfold checkFinite
  cases x.isNaN <;> cases x.isFinite <;> simp

end RoadTraffic
