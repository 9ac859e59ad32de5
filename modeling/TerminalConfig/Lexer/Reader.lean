/-
Reading a text an entry at a time, when the consumer asks.

A reader that has not been asked yet has not touched the lexer.  The first request
resets it, and each request then reads only as far as the next entry.  The lexer may be
used otherwise between two requests; what it has queued by then is handed over with the
next entry, and if it has been told to stop the reader ends.
-/
import TerminalConfig.Lexer.Basic

namespace TerminalConfig

/-- What is left to read. -/
inductive Reader
  /-- Nothing has been asked for yet. -/
  | unopened (text : List Char)
  /-- Entries to hand over first, then the rest of the text. -/
  | reading (ready : List Entry) (rest : List Char)
  /-- Entries to hand over, and nothing after them. -/
  | closing (ready : List Entry)
  | done

/-- What one request gives: the lexer and the reader after it, the problems noticed on
the way, and the entry, which is none at the end. -/
structure Request where
  lexer : Lexer
  reader : Reader
  problems : List Problem
  entry : Option Entry

namespace Reader

/-- Reads on to the next entry. -/
def seek (lexer : Lexer) : List Char → Request
  | [] =>
    let (lexer, problems) := lexer.finish
    match lexer.drain with
    | (lexer, []) => ⟨lexer, .done, problems, none⟩
    | (lexer, entry :: ready) => ⟨lexer, .closing ready, problems, some entry⟩
  | c :: cs =>
    let (lexer, problem) := lexer.feed c
    match lexer.drain with
    | (lexer, entry :: ready) => ⟨lexer, .reading ready cs, problem.toList, some entry⟩
    | (lexer, []) =>
      if lexer.aborted then ⟨lexer, .done, problem.toList, none⟩
      else
        let request := seek lexer cs
        { request with problems := problem.toList ++ request.problems }

/-- Asks for the next entry. -/
def next (reader : Reader) (lexer : Lexer) : Request :=
  match reader with
  | .unopened text => seek lexer.reset text
  | .reading (entry :: ready) rest => ⟨lexer, .reading ready rest, [], some entry⟩
  | .reading [] rest => if lexer.aborted then ⟨lexer, .done, [], none⟩ else seek lexer rest
  | .closing (entry :: ready) => ⟨lexer, .closing ready, [], some entry⟩
  | .closing [] => ⟨lexer, .done, [], none⟩
  | .done => ⟨lexer, .done, [], none⟩

end Reader

end TerminalConfig
