/-
Lines whose value is one text between quotes.

Between quotes nothing has a meaning of its own but the quote, the backslash and the end of
the line.  A text without backslashes is written there with a backslash before its quotes and
for its newlines, and the machine keeps it as it was meant, save that each bracket gets a
backslash.  The value is then no list, and resolving the escapes takes these backslashes off
again, and no others.
-/
import TerminalConfig.Proofs.Lexer.Line
import TerminalConfig.Proofs.ListValue.Scalar

namespace TerminalConfig

open Text

namespace Scanner

variable {key text : String}

/-- A text that can be written between quotes: it has no backslashes, and of the control
characters it has newlines only. -/
def IsQuotable (text : String) : Prop :=
  ∀ c ∈ text.toList, c ≠ '\\' ∧ (isControl c = true → c = '\n')

/-- What the machine keeps of a text between quotes. -/
def keptQuoted (text : String) : String :=
  String.ofList (escape isBracket text.toList)

/-- What has a meaning in a value has a backslash in what is kept. -/
theorem isBracket_of_mark (htext : ∀ c ∈ text.toList, c ≠ '\\') :
    ∀ c ∈ text.toList, c = '[' ∨ c = '\\' → isBracket c = true := by
  rintro c hc (rfl | rfl)
  · rfl
  · exact absurd rfl (htext '\\' hc)

theorem isList_keptQuoted (htext : ∀ c ∈ text.toList, c ≠ '\\') :
    ListValue.isList (keptQuoted text) = false := by
  rw [ListValue.isList, keptQuoted, String.toList_ofList,
    ListValue.opensList_escape (isBracket_of_mark htext)]

/-- What is kept of a text is taken apart into that text. -/
theorem expand_keptQuoted (htext : ∀ c ∈ text.toList, c ≠ '\\') :
    ListValue.expand (keptQuoted text) = { first := text } := by
  rw [keptQuoted, ListValue.expand_escape (isBracket_of_mark htext), String.ofList_toList]

/-- The line gives the key what is kept of the text, wherever it stands. -/
theorem run_quotedLine (hkey : ∀ c ∈ key.toList, isKeyChar c = true) (htext : IsQuotable text)
    (line keyLine : Nat) :
    (lineStart line keyLine).run (key.toList ++ [' ', '=', ' '] ++ quotation text.toList) =
      (inPlain line key (keptQuoted text), []) :=
  run_append (run_opening hkey) (run_quotation htext)

end Scanner

open Scanner in
/-- **A quoted text survives being read**, whether a newline or the end of the text ends its
line.  The line gives one entry and no problem, and the value of that entry is no list and is
taken apart into the text. -/
theorem readSettings_quotedLine {key text : String} (hkey : ∀ c ∈ key.toList, isKeyChar c = true)
    (htext : IsQuotable text) (n : Nat) {lineEnd : List Char}
    (hend : lineEnd = [] ∨ lineEnd = ['\n']) (policy : Policy) :
    ∃ value, readSettings policy (List.replicate n '\n' ++
        (key.toList ++ [' ', '=', ' '] ++ quotation text.toList) ++ lineEnd) =
        ⟨[.entry ⟨key, some value, n + 1⟩], true⟩ ∧
      ListValue.isList value = false ∧ (ListValue.expand value).elements = [text] ∧
      (ListValue.expand value).problems = [] := by
  have hbackslash : ∀ c ∈ text.toList, c ≠ '\\' := fun c hc => (htext c hc).1
  have hline := run_append (run_newlines 1 0 n) (run_quotedLine hkey htext (1 + n) 0)
  refine ⟨keptQuoted text, ?_, isList_keptQuoted hbackslash, ?_, ?_⟩
  · rw [Nat.add_comm 1 n] at hline
    obtain rfl | rfl := hend
    · rw [List.append_nil]
      exact @readSettings_of_entries _ _ [] hline rfl policy
    · exact @readSettings_of_entries _ _ [⟨key, some (keptQuoted text), n + 1⟩]
        (run_append hline run_valueEnd) rfl policy
  · rw [expand_keptQuoted hbackslash]
    rfl
  · rw [expand_keptQuoted hbackslash]

/-- Blanks at both ends, a number sign, brackets, a comma, an equals sign, quotes and a newline,
on the second line, at the end of the text. -/
theorem readSettings_quotedLine_of_marks :
    let text := "  #[a], = \"b\"\n "
    Scanner.IsQuotable text ∧
      ∃ value, readSettings .listen "\ntitle = \"  #[a], = \\\"b\\\"\\n \"".toList =
          ⟨[.entry ⟨"title", some value, 2⟩], true⟩ ∧
        ListValue.isList value = false ∧ (ListValue.expand value).elements = [text] ∧
        (ListValue.expand value).problems = [] := by
  intro text
  have hkey : ∀ c ∈ "title".toList, Scanner.isKeyChar c = true :=
    List.all_eq_true.mp (by decide)
  have htext : Scanner.IsQuotable text := by
    simp [Scanner.IsQuotable, text, isControl]
  have hwritten : "\ntitle = \"  #[a], = \\\"b\\\"\\n \"".toList = List.replicate 1 '\n' ++
      ("title".toList ++ [' ', '=', ' '] ++ Scanner.quotation text.toList) ++ [] := by
    decide +kernel
  rw [hwritten]
  exact ⟨htext, readSettings_quotedLine hkey htext 1 (Or.inl rfl) .listen⟩

end TerminalConfig
