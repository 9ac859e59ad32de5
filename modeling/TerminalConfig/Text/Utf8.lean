/-
Reading UTF-8 octet by octet, with a replacement character for what is not UTF-8.

Octets may come in pieces that end inside a character, so the octets of a character that
is not complete yet are part of the state.  An octet that cannot go on with the
character begun closes it: the character begun becomes one replacement character, and
the octet starts afresh.  Each longest ill-formed beginning thus gives exactly one
replacement, wherever the pieces are cut.

The two octets that begin a surrogate can never become a character, but they are judged
only when a third octet or the end of the input is there.  So a piece that ends with
them shows nothing of them yet.
-/
namespace TerminalConfig.Text.Utf8

/-- Stands for octets that form no character. -/
def replacement : Char := Char.ofNat 0xFFFD

/-- Where a decoder stands between two octets. -/
inductive State
  /-- Between two characters. -/
  | between
  /-- Inside a character: `bits` has been read, `owed` octets are missing, and the next
  one lies between `low` and `high`. -/
  | inside (owed bits low high : Nat)
  /-- After the two octets that begin a surrogate. -/
  | surrogate
deriving DecidableEq, Repr

/-- The first octet of a character.  The bounds after it rule out spellings that are
longer than need be, surrogates, and code points past the last. -/
def first (octet : Nat) : State × List Char :=
  if octet ≤ 0x7F then (.between, [Char.ofNat octet])
  else if 0xC2 ≤ octet ∧ octet ≤ 0xDF then (.inside 1 (octet - 0xC0) 0x80 0xBF, [])
  else if octet = 0xE0 then (.inside 2 0 0xA0 0xBF, [])
  else if octet = 0xED then (.inside 2 0xD 0x80 0x9F, [])
  else if 0xE1 ≤ octet ∧ octet ≤ 0xEF then (.inside 2 (octet - 0xE0) 0x80 0xBF, [])
  else if octet = 0xF0 then (.inside 3 0 0x90 0xBF, [])
  else if 0xF1 ≤ octet ∧ octet ≤ 0xF3 then (.inside 3 (octet - 0xF0) 0x80 0xBF, [])
  else if octet = 0xF4 then (.inside 3 4 0x80 0x8F, [])
  else (.between, [replacement])

/-- An octet that starts afresh after `refused`. -/
def afresh (refused : List Char) (octet : Nat) : State × List Char :=
  let (state, read) := first octet
  (state, refused ++ read)

/-- One octet: the state after it and the characters it completes.  Only the octet that
may begin a surrogate has 0x9F as the bound of the next. -/
def step (state : State) (octet : Nat) : State × List Char :=
  match state with
  | .between => first octet
  | .surrogate => afresh [replacement, replacement] octet
  | .inside owed bits low high =>
    if low ≤ octet ∧ octet ≤ high then
      let bits := bits * 64 + (octet - 0x80)
      if owed ≤ 1 then (.between, [Char.ofNat bits])
      else (.inside (owed - 1) bits 0x80 0xBF, [])
    else if high = 0x9F ∧ 0xA0 ≤ octet ∧ octet ≤ 0xBF then (.surrogate, [])
    else afresh [replacement] octet

/-- A piece of input: the state after it and the characters it completes. -/
def run (state : State) : List UInt8 → State × List Char
  | [] => (state, [])
  | octet :: octets =>
    let (state, read) := step state octet.toNat
    let (state, more) := run state octets
    (state, read ++ more)

/-- What the end of the input makes of a character that is not complete. -/
def finish : State → List Char
  | .between => []
  | .inside .. => [replacement]
  | .surrogate => [replacement, replacement]

/-- The characters of a whole input. -/
def decode (octets : List UInt8) : List Char :=
  let (state, read) := run .between octets
  read ++ finish state

end TerminalConfig.Text.Utf8
