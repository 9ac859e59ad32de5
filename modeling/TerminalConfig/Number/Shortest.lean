/-
The text of a double: the fewest digits that read back as the same number.

The reals that round to a number form an interval between the midpoints to its two
neighbours, and the midpoints belong to it if its rank is even, since a tie goes to the
even rank.  For one digit, two digits and so on, the two decimals of that many digits
around the number are tried, and the first that lies in the interval is taken, the
nearer of two, and of two equally near the one that ends in an even digit.  Seventeen
digits always suffice.

The digits are written positionally while the exponent of the first is at least -4 and
below 16, with at least one digit after the point, and otherwise with a signed exponent
of at least two digits.
-/
import TerminalConfig.Number.Binary64

namespace TerminalConfig

/-- `digits` times ten to the power `exponent`. -/
structure Decimal where
  digits : Nat
  exponent : Int
deriving DecidableEq, Repr

namespace Decimal

/-- How many digits a positive integer has. -/
def length (n : Nat) : Nat :=
  if n < 10 then (if n = 0 then 0 else 1) else length (n / 10) + 1

/-- The grid of decimals with a given exponent, in units: each step is `step / parts`. -/
def step (exponent : Int) : Nat := Nat.pow 10 exponent.toNat * Binary64.one

/-- The denominator of a step of the grid. -/
def parts (exponent : Int) : Nat := Nat.pow 10 (-exponent).toNat

/-- Whether the decimal rounds to the number of the given rank. -/
def readsAs (rank : Nat) (d : Decimal) : Bool :=
  let twice := 2 * d.digits * step d.exponent
  let low := (Binary64.units (rank - 1) + Binary64.units rank) * parts d.exponent
  let high := (Binary64.units rank + Binary64.units (rank + 1)) * parts d.exponent
  if rank % 2 == 0 then low ≤ twice && twice ≤ high else low < twice && twice < high

/-- How far the decimal is from the number of the given rank, in parts of a unit. -/
def distance (rank : Nat) (d : Decimal) : Nat :=
  let here := d.digits * step d.exponent
  let there := Binary64.units rank * parts d.exponent
  (here - there) + (there - here)

/-- The nearer of two decimals of one grid, `below` being the one before `above`. -/
def nearer (rank : Nat) (below above : Decimal) : Decimal :=
  let toBelow := below.distance rank
  let toAbove := above.distance rank
  if toBelow < toAbove || (toBelow == toAbove && below.digits % 2 == 0) then below else above

/-- The decimals with a given exponent that are around the number of the given rank. -/
def around (rank : Nat) (exponent : Int) : Decimal × Decimal :=
  let below := Binary64.units rank * parts exponent / step exponent
  (⟨below, exponent⟩, ⟨below + 1, exponent⟩)

/-- The decimal with a given exponent that reads as the number of the given rank. -/
def onGrid? (rank : Nat) (exponent : Int) : Option Decimal :=
  let (below, above) := around rank exponent
  match below.readsAs rank, above.readsAs rank with
  | true, true => some (nearer rank below above)
  | true, false => some below
  | false, true => some above
  | false, false => none

/-- The exponent of the first digit of the number of a positive rank. -/
def leading (rank : Nat) : Int :=
  let u := Binary64.units rank
  if Binary64.one ≤ u then length (u / Binary64.one) - 1
  else -(length ((Binary64.one - 1) / u))

/-- The shortest decimal with its first digit at `first` that reads as the number of the
given rank, trying so many further digits on finer and finer grids. -/
def shortestFrom (rank : Nat) (exponent : Int) : Nat → Decimal
  | 0 => let (below, above) := around rank exponent; nearer rank below above
  | more + 1 => (onGrid? rank exponent).getD (shortestFrom rank (exponent - 1) more)

/-- The shortest decimal that reads as the number of a positive rank. -/
def shortest (rank : Nat) : Decimal :=
  shortestFrom rank (leading rank) 16

/-- Digits without the zeros at their end. -/
def significant (digits : List Char) : List Char :=
  (digits.reverse.dropWhile (· == '0')).reverse

/-- The exponent of a number in scientific notation. -/
def exponentText (e : Int) : String :=
  let digits := toString e.natAbs
  (if e < 0 then "e-" else "e+") ++ (if digits.length < 2 then "0" ++ digits else digits)

/-- The text of a positive decimal. -/
def text (d : Decimal) : String :=
  let written := (toString d.digits).toList
  let digits := significant written
  let first := d.exponent + written.length - 1
  let zeros (n : Int) := List.replicate n.toNat '0'
  if first < -4 || 16 ≤ first then
    let (lead, more) := digits.splitAt 1
    String.ofList (lead ++ (if more.isEmpty then [] else '.' :: more)) ++ exponentText first
  else if first < 0 then String.ofList ('0' :: '.' :: (zeros (-first - 1) ++ digits))
  else
    let padded := digits ++ zeros (first + 1 - digits.length)
    let (whole, more) := padded.splitAt (first + 1).toNat
    String.ofList (whole ++ '.' :: (if more.isEmpty then ['0'] else more))

end Decimal

/-- The text of a double. -/
def Binary64.text : Binary64 → String
  | .nan => "nan"
  | .number negative rank =>
    (if negative then "-" else "") ++
      (if rank = 0 then "0.0"
        else if infiniteRank ≤ rank then "inf"
        else (Decimal.shortest rank).text)

end TerminalConfig
