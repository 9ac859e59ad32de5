import TerminalConfig.Color.Palette
import TerminalConfig.Lexer.Reader
import TerminalConfig.Main
import TerminalConfig.Proofs.Template.Meaning
import TerminalConfig.Proofs.Title
import TerminalConfig.Proofs.Lexer.Mirror
import TerminalConfig.Proofs.Lexer.Line
import TerminalConfig.Proofs.Lexer.ListLine
import TerminalConfig.Proofs.Number.Decimal
import TerminalConfig.Proofs.Color.Code
import TerminalConfig.Proofs.ListValue.Scalar
import TerminalConfig.Proofs.Settings.Held
import TerminalConfig.Proofs.Settings.Accepting
import TerminalConfig.Proofs.Settings.Writing
import TerminalConfig.Proofs.Settings.RoundTrip
import TerminalConfig.Proofs.Lexer.History
import TerminalConfig.Proofs.Lexer.Stopping
import TerminalConfig.Proofs.Lexer.Agreement
import TerminalConfig.Proofs.LoadedTitle
import TerminalConfig.Proofs.Number.Leading
import TerminalConfig.Proofs.Template.Incidents
import TerminalConfig.Proofs.Template.Refusal
import TerminalConfig.Proofs.Lexer.Pieces
import TerminalConfig.Proofs.Lexer.Lines
import TerminalConfig.Proofs.Settings.Valid
import TerminalConfig.Proofs.Settings.Order
import TerminalConfig.Proofs.Lexer.Coherent
import TerminalConfig.Proofs.Lexer.Actions
import TerminalConfig.Proofs.Lexer.Headings
import TerminalConfig.Proofs.Template.Mentions
import TerminalConfig.Proofs.Lexer.TextEnd
import TerminalConfig.Proofs.Lexer.PlainLine
import TerminalConfig.Proofs.Lexer.Brackets
import TerminalConfig.Proofs.Lexer.ListText
import TerminalConfig.Proofs.Lexer.Insertion
import TerminalConfig.Proofs.Lexer.Driving
import TerminalConfig.Proofs.Settings.Atomicity
import TerminalConfig.Proofs.Template.Joining
import TerminalConfig.Proofs.Template.ConditionText
import TerminalConfig.Proofs.ListValue.Stretches
import TerminalConfig.Proofs.Color.Reading
import TerminalConfig.Proofs.Variable.Binding
import TerminalConfig.Proofs.Escapes
import TerminalConfig.Proofs.Number.Literal
