/-
Classes of characters given as tables of ranges of code points.

The tables are ascending and their ranges do not touch, so a search may stop at the
first range that begins after the code point.
-/
namespace TerminalConfig.Text

/-- Whether a code point lies in one of the ranges, both ends included. -/
def inRanges (code : Nat) : List (Nat × Nat) → Bool
  | [] => false
  | (low, high) :: ranges => low ≤ code && (code ≤ high || inRanges code ranges)

end TerminalConfig.Text
