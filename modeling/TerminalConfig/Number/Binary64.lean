/-
Binary floating point numbers of 64 bits, as a proof can compute with them.

The nonnegative numbers of the format, taken in ascending order and counted from zero,
have ranks, and the last rank is that of infinity.  A number is a sign and a rank, so
comparing two numbers is comparing two integers.  There are two zeros, which compare as
equal, and one value that is not a number, which compares with nothing.

The smallest positive number is the unit in which all others are integers: below `2 ^
53` units every integer has a rank, and above that every doubling of the size doubles
the distance between neighbours.  Rounding is to the nearest rank, and between two
equally near to the even one.

Powers of two are shifts and powers of ten are `Nat.pow`, so that what they stand for does
not depend on the algebra that is imported.
-/
namespace TerminalConfig

/-- A double. -/
inductive Binary64
  | number (negative : Bool) (rank : Nat)
  | nan
deriving DecidableEq, Repr

namespace Binary64

/-- The rank of infinity. -/
def infiniteRank : Nat := 2047 <<< 52

/-- How many units make one. -/
def one : Nat := 1 <<< 1074

/-- The number of units at a rank.  At the rank of infinity it is the number of units
that would come next, were there no end. -/
def units (rank : Nat) : Nat :=
  let binade := 1 <<< 52
  if rank < 2 * binade then rank else (binade + rank % binade) <<< (rank / binade - 1)

/-- `a / b` rounded to the nearest integer, and to the even one of two. -/
def roundDiv (a b : Nat) : Nat :=
  let q := a / b
  let twice := 2 * (a % b)
  if twice < b || (twice == b && q % 2 == 0) then q else q + 1

/-- The rank nearest to `a / b` units. -/
def nearestRank (a b : Nat) : Nat :=
  let shift := (a / b).log2 - 52
  min ((shift <<< 52) + roundDiv a (b <<< shift)) infiniteRank

def zero : Binary64 := .number false 0

def infinity : Binary64 := .number false infiniteRank

/-- `a / b` units with a sign. -/
def ofUnits (negative : Bool) (a b : Nat) : Binary64 :=
  .number negative (nearestRank a b)

/-- The number nearest to an integer. -/
def ofInt (n : Int) : Binary64 :=
  ofUnits (n < 0) (n.natAbs * one) 1

/-- The number nearest to `digits` times ten to the power `exponent`.  Powers that are
far out of range are not computed: they leave only infinity or zero. -/
def ofDecimal (negative : Bool) (digits : Nat) (exponent : Int) : Binary64 :=
  if digits = 0 then .number negative 0
  else if 400 < exponent then .number negative infiniteRank
  else if exponent + digits.log2 < -400 then .number negative 0
  else
    ofUnits negative (digits * Nat.pow 10 exponent.toNat * one) (Nat.pow 10 (-exponent).toNat)

/-- The number nearest to `digits` times two to the power `exponent`. -/
def ofBinary (negative : Bool) (digits : Nat) (exponent : Int) : Binary64 :=
  if digits = 0 then .number negative 0
  else if 1100 < exponent then .number negative infiniteRank
  else if exponent + digits.log2 < -1100 then .number negative 0
  else ofUnits negative ((digits <<< exponent.toNat) * one) (1 <<< (-exponent).toNat)

/-- The truth value as a number. -/
def ofBool (b : Bool) : Binary64 :=
  ofInt (if b then 1 else 0)

def isInfinite : Binary64 → Bool
  | .number _ rank => rank == infiniteRank
  | .nan => false

/-- The place of a number among all, zeros at 0. -/
def position? : Binary64 → Option Int
  | .number negative rank => some (if negative then -(rank : Int) else rank)
  | .nan => none

/-- Compares two numbers.  What is not a number stands in no relation. -/
def compare (related : Int → Int → Bool) (x y : Binary64) : Bool :=
  match x.position?, y.position? with
  | some i, some j => related i j
  | _, _ => false

/-- Equal as numbers. -/
def equals (x y : Binary64) : Bool := compare (· == ·) x y

def less (x y : Binary64) : Bool := compare (· < ·) x y

def atMost (x y : Binary64) : Bool := compare (· ≤ ·) x y

/-- Whether the number is zero, of either sign. -/
def isZero (x : Binary64) : Bool := x.equals zero

/-- The integer part of a finite number. -/
def truncate? : Binary64 → Option Int
  | .number negative rank =>
    if rank = infiniteRank then none
    else
      let n : Int := (units rank / one : Nat)
      some (if negative then -n else n)
  | .nan => none

end Binary64

end TerminalConfig
