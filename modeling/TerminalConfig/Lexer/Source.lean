/-
Where a settings text comes from.

A text is there as characters, as octets that are read as UTF-8, as a stream that
delivers pieces, or as a file, which is a stream of octets in pieces of a fixed size.
Only how the text is cut into pieces differs; a reader sees the pieces joined.

A stream may mix pieces of characters with pieces of octets.  A character that is cut
between two pieces of octets waits for the second, and pieces of characters pass it by.
-/
import TerminalConfig.Text.Utf8

namespace TerminalConfig

open Text

/-- What a stream delivers at one request. -/
inductive Piece
  | text (cs : List Char)
  | octets (bs : List UInt8)
deriving DecidableEq, Repr

/-- A piece with nothing in it ends its stream. -/
def Piece.isEmpty : Piece → Bool
  | .text cs => cs.isEmpty
  | .octets bs => bs.isEmpty

/-- A settings text. -/
inductive Source
  | text (cs : List Char)
  | octets (bs : List UInt8)
  | stream (pieces : List Piece)
  | file (bs : List UInt8)
deriving DecidableEq, Repr

namespace Source

/-- The size of the pieces in which a file is read. -/
def pieceSize : Nat := 8 * 1024

/-- `bs` in pieces of `size`, the last of which may be shorter. -/
def piecesOf (size : Nat) (bs : List UInt8) : List (List UInt8) :=
  if bs.length = 0 ∨ size = 0 then []
  else bs.take size :: piecesOf size (bs.drop size)
termination_by bs.length

/-- What the end of a stream adds: a last piece, if a character is incomplete. -/
def streamEnd (state : Utf8.State) : List (List Char) :=
  match Utf8.finish state with
  | [] => []
  | rest => [rest]

/-- The characters of each piece of a stream. -/
def readStream (state : Utf8.State) : List Piece → List (List Char)
  | [] => streamEnd state
  | piece :: pieces =>
    if piece.isEmpty then streamEnd state
    else match piece with
      | .text cs => cs :: readStream state pieces
      | .octets bs =>
        let (state, cs) := Utf8.run state bs
        cs :: readStream state pieces

/-- The text in the pieces in which it arrives. -/
def chunks : Source → List (List Char)
  | .text cs => [cs]
  | .octets bs => [Utf8.decode bs]
  | .stream pieces => readStream .between pieces
  | .file bs => readStream .between ((piecesOf pieceSize bs).map .octets)

/-- The whole text. -/
def contents (source : Source) : List Char :=
  source.chunks.flatten

end Source

end TerminalConfig
