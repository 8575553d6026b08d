import RoadTraffic.Number.Binary32

/-!
# Reading numbers from text

What a command line may say for a number.

* An integer is a run of digits with at most one sign before it.
* A count is an integer that is not negative; minus zero is not.
* A natural number is a run of digits with at most a plus sign before it, so minus
  zero is none.
* A single has the usual decimal notation, or is one of the words `inf`, `infinity`
  and `nan` in any mix of case, with at most one sign before it.

Nothing else is skipped: no blanks, no separators, no other base.
-/

namespace RoadTraffic.Reading

/-- The value of a run of digits. -/
def digitsValue (digits : List Char) : Nat :=
  digits.foldl (fun value digit => 10 * value + (digit.toNat - '0'.toNat)) 0

/-- A nonempty run of digits, nothing more. -/
def digits? (text : List Char) : Option Nat :=
  if text ≠ [] ∧ text.all Char.isDigit then some (digitsValue text) else none

/-- A leading sign, plus if there is none, and the text behind it. -/
def splitSign : List Char → Bool × List Char
  | '-' :: rest => (true, rest)
  | '+' :: rest => (false, rest)
  | rest => (false, rest)

/-- An integer. -/
def integer? (text : List Char) : Option Int :=
  let (isNegative, digits) := splitSign text
  (digits? digits).map fun value => if isNegative then -(value : Int) else value

/-- A count below `limit`. -/
def count? (limit : Nat) (text : String) : Option Nat :=
  (integer? text.toList).bind fun value =>
    if 0 ≤ value ∧ value < limit then some value.toNat else none

/-- A natural number below `limit`. -/
def natural? (limit : Nat) (text : String) : Option Nat :=
  let run := match text.toList with
    | '+' :: digits => digits
    | digits => digits
  (digits? run).filter (· < limit)

/-- Minus zero is a count, but not a natural number. -/
example : count? 256 "-00" = some 0 ∧ natural? 256 "-0" = none := by decide +kernel

/-- The exponent part of a decimal: nothing, or an `e` and an integer. -/
def exponent? : List Char → Option Int
  | [] => some 0
  | mark :: rest =>
    if mark = 'e' ∨ mark = 'E' then integer? rest else none

/-- The single nearest to `digits * 10 ^ power`.  The first two cases only keep
the powers small: they are far beyond the range of singles. -/
def nearest (isNegative : Bool) (digits : Nat) (power : Int) : Float32 :=
  if digits = 0 ∨ power + digits.log2 < -60 then Binary32.ofRatio isNegative 0 1
  else if 60 < power then Binary32.infinity isNegative
  else Binary32.ofRatio isNegative (digits * 10 ^ power.toNat) (10 ^ (-power).toNat)

/-- A decimal without its sign: digits with at most one point among or beside
them, then an exponent. -/
def decimal? (isNegative : Bool) (text : List Char) : Option Float32 :=
  let whole := text.takeWhile Char.isDigit
  let (places, rest) := match text.dropWhile Char.isDigit with
    | '.' :: behind => (behind.takeWhile Char.isDigit, behind.dropWhile Char.isDigit)
    | behind => ([], behind)
  if whole ++ places = [] then none
  else (exponent? rest).map fun power =>
    nearest isNegative (digitsValue (whole ++ places)) (power - places.length)

/-- A single. -/
def single? (text : String) : Option Float32 :=
  let (isNegative, rest) := splitSign text.toList
  let word := String.ofList (rest.map Char.toLower)
  if word = "inf" ∨ word = "infinity" then some (Binary32.infinity isNegative)
  else if word = "nan" then some Binary32.nan
  else decimal? isNegative rest

/-- Digits may be missing on one side of the point, and great numbers overflow. -/
example : single? ".5" = some 0.5 ∧ single? "-5.e1" = some (-50) ∧
    single? "1e39" = some (Binary32.infinity false) ∧ single? "1e" = none := by
  decide +kernel

end RoadTraffic.Reading
