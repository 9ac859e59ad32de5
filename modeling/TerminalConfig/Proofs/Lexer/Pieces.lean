/-
Reading a settings text as it arrives.

A text arrives in pieces, and where they are cut is no business of the reader: a stream may
cut them anywhere, also inside a character or inside octets that form none, and a file is cut
where its size says.  Two things could notice a cut, the decoder and the reader.

  * The decoder keeps the octets of an incomplete character from one piece to the next, so the
    characters of all pieces are those of the octets joined.
  * The reader takes the pieces one by one and the characters of each one by one, and stops
    inside a piece if it is told to.  It sees what it sees of the characters joined.

So a text is decoded and read alike however it is cut, and decoded by the rule of `Decodes`.
-/
import TerminalConfig.Lexer.Basic
import TerminalConfig.Lexer.Source
import TerminalConfig.Proofs.Text.Utf8.Replacing

namespace TerminalConfig

open Text

namespace Source

/-! ### Decoding in pieces -/

/-- A stream of octets gives the characters of all of them. -/
theorem flatten_readStream (state : Utf8.State) {pieces : List (List UInt8)}
    (hne : ∀ piece ∈ pieces, piece ≠ []) :
    (readStream state (pieces.map .octets)).flatten = Utf8.decodeFrom state pieces.flatten := by
  induction pieces generalizing state with
  | nil =>
      rw [List.map_nil, readStream, streamEnd, List.flatten_nil]
      cases hend : Utf8.finish state with
      | nil => exact hend.symm
      | cons c cs => rw [List.flatten_singleton, ← hend]; rfl
  | cons piece pieces ih =>
      obtain ⟨hpiece, hpieces⟩ := List.forall_mem_cons.mp hne
      have hfull : (Piece.octets piece).isEmpty = false := by
        simpa [Piece.isEmpty] using hpiece
      rw [List.map_cons, readStream, hfull, if_neg Bool.false_ne_true, List.flatten_cons,
        ih _ hpieces, List.flatten_cons, Utf8.decodeFrom_append]

theorem flatten_piecesOf (size : Nat) (hsize : size ≠ 0) (octets : List UInt8) :
    (piecesOf size octets).flatten = octets := by
  fun_induction piecesOf size octets with
  | case1 octets hend =>
      obtain hnil | hzero := hend
      · exact (List.length_eq_zero_iff.mp hnil).symm
      · exact absurd hzero hsize
  | case2 octets hmore ih =>
      rw [List.flatten_cons, ih, List.take_append_drop]

theorem piecesOf_ne_nil (size : Nat) (octets : List UInt8) :
    ∀ piece ∈ piecesOf size octets, piece ≠ [] := by
  fun_induction piecesOf size octets with
  | case1 octets hend => simp
  | case2 octets hmore ih =>
      refine List.forall_mem_cons.mpr ⟨?_, ih⟩
      rw [Ne, List.take_eq_nil_iff, not_or, ← List.length_eq_zero_iff]
      exact ⟨fun hzero => hmore (.inr hzero), fun hnil => hmore (.inl hnil)⟩

theorem contents_stream {pieces : List (List UInt8)} (hne : ∀ piece ∈ pieces, piece ≠ []) :
    (stream (pieces.map .octets)).contents = Utf8.decode pieces.flatten :=
  flatten_readStream .between hne

theorem contents_file (octets : List UInt8) : (file octets).contents = Utf8.decode octets := by
  have hjoined : (piecesOf pieceSize octets).flatten = octets :=
    flatten_piecesOf pieceSize (by decide) octets
  rw [contents, chunks, flatten_readStream .between (piecesOf_ne_nil pieceSize octets), hjoined]
  rfl

theorem contents_octets (octets : List UInt8) :
    (Source.octets octets).contents = Utf8.decode octets :=
  List.flatten_singleton

theorem contents_text (cs : List Char) : (text cs).contents = cs :=
  List.flatten_singleton

end Source

/-! ### Reading in pieces -/

namespace Lexer

/-- Reads a piece, or as much of it as comes before the listener says stop. -/
def readPiece (l : Lexer) : List Char → Lexer × List Event
  | [] => (l, [])
  | c :: cs =>
    let (l, problem) := l.feed c
    let (l, entries) := l.drain
    let seen := problem.toList.map .problem ++ entries.map .entry
    if l.aborted then (l, seen)
    else
      let (l, events) := l.readPiece cs
      (l, seen ++ events)

/-- Reads pieces to the end of the last, or until the listener says stop. -/
def readPieces (l : Lexer) : List (List Char) → Lexer × List Event
  | [] => l.readOn []
  | piece :: pieces =>
    let (l, seen) := l.readPiece piece
    if l.aborted then (l, seen)
    else
      let (l, events) := l.readPieces pieces
      (l, seen ++ events)

/-- The characters after a piece are read only if the piece was not stopped in. -/
theorem readOn_append {l : Lexer} (haborted : l.aborted = false) (piece rest : List Char) :
    l.readOn (piece ++ rest) =
      if (l.readPiece piece).1.aborted then l.readPiece piece
      else (((l.readPiece piece).1.readOn rest).1,
        (l.readPiece piece).2 ++ ((l.readPiece piece).1.readOn rest).2) := by
  induction piece generalizing l with
  | nil => simp [readPiece, haborted]
  | cons c cs ih =>
      rw [List.cons_append, readOn, readPiece]
      by_cases hstop : (l.feed c).1.drain.1.aborted = true
      · simp [hstop]
      · rw [Bool.not_eq_true] at hstop
        simp only [hstop, Bool.false_eq_true, if_false, ih hstop]
        split <;> simp

/-- **Where the pieces are cut is not seen.** -/
theorem readPieces_eq {l : Lexer} (haborted : l.aborted = false) (pieces : List (List Char)) :
    l.readPieces pieces = l.readOn pieces.flatten := by
  induction pieces generalizing l with
  | nil => rfl
  | cons piece pieces ih =>
      rw [List.flatten_cons, readOn_append haborted, readPieces]
      by_cases hstop : (l.readPiece piece).1.aborted = true
      · simp [hstop]
      · rw [Bool.not_eq_true] at hstop
        simp [hstop, ih hstop]

end Lexer

/-- Reads a settings text in the pieces in which it arrives. -/
def readArriving (policy : Policy) (source : Source) : Reading :=
  let (l, events) := ({ policy := policy } : Lexer).reset.readPieces source.chunks
  ⟨events, !l.aborted⟩

theorem readArriving_eq (policy : Policy) (source : Source) :
    readArriving policy source = readSettings policy source.contents := by
  unfold readArriving
  rw [Lexer.readPieces_eq rfl]
  rfl

/-- **However its octets are cut, a text is decoded and read alike.**  Of a stream that delivers
them in pieces, of a file, and of the octets at once, the characters are those that the octets
stand for, and a reading under any policy comes to the same as a reading of these characters:
the entries, the problems and warnings, their order, and whether it was stopped. -/
theorem readArriving_pieces (policy : Policy) {pieces : List (List UInt8)}
    (hne : ∀ piece ∈ pieces, piece ≠ []) :
    let octets := pieces.flatten
    let whole := Source.octets octets
    let cut := Source.stream (pieces.map .octets)
    Utf8.Decodes octets whole.contents ∧
    cut.chunks.flatten = whole.chunks.flatten ∧
    ∀ source ∈ [whole, cut, .file octets, .text whole.contents],
      readArriving policy source = readSettings policy whole.contents := by
  intro octets whole cut
  have hwhole : whole.contents = Utf8.decode octets := Source.contents_octets octets
  have hcut : cut.contents = Utf8.decode octets := Source.contents_stream hne
  refine ⟨Utf8.decodes_iff.mpr hwhole, hcut.trans hwhole.symm, fun source hsource => ?_⟩
  have hcontents : source.contents = whole.contents := by
    simp only [List.mem_cons, List.not_mem_nil, or_false] at hsource
    rcases hsource with rfl | rfl | rfl | rfl
    · rfl
    · exact hcut.trans hwhole.symm
    · exact (Source.contents_file octets).trans hwhole.symm
    · exact Source.contents_text whole.contents
  rw [readArriving_eq, hcontents]

/-- A stream that cuts a euro sign and then the octets of a surrogate, which are no character,
and ends inside another character. -/
theorem readArriving_pieces_cut :
    let pieces : List (List UInt8) :=
      [[0x6B, 0x3D, 0xE2], [0x82], [0xAC, 0xED], [0xA0], [0x80, 0x5D, 0xF0], [0x9F, 0x98]]
    let cut := Source.stream (pieces.map .octets)
    (∀ piece ∈ pieces, piece ≠ []) ∧
      cut.chunks.map String.ofList = ["k=", "", "€", "", "\ufffd\ufffd\ufffd]", "", "\ufffd"] ∧
      ∀ policy, readArriving policy cut =
        readSettings policy "k=€\ufffd\ufffd\ufffd]\ufffd".toList := by
  intro pieces cut
  have hne : ∀ piece ∈ pieces, piece ≠ [] := by decide
  have hwhole : (Source.octets pieces.flatten).contents =
      "k=€\ufffd\ufffd\ufffd]\ufffd".toList := by
    decide +kernel
  refine ⟨hne, by decide +kernel, fun policy => ?_⟩
  obtain ⟨-, -, hread⟩ := readArriving_pieces policy hne
  rw [hread cut (by simp [cut]), hwhole]

end TerminalConfig
