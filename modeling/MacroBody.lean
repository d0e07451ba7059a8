import MacroBody.Character.Age
import MacroBody.Character.Binary
import MacroBody.Character.BinaryTables
import MacroBody.Character.Boundary
import MacroBody.Character.CaseFold
import MacroBody.Character.Category
import MacroBody.Character.Current
import MacroBody.Character.LetterTables
import MacroBody.Character.Ranges
import MacroBody.Character.ScriptTables
import MacroBody.Character.Set
import MacroBody.Character.SymbolTables
import MacroBody.Character.Word
import MacroBody.Command.Basic
import MacroBody.Command.Request
import MacroBody.Command.Usage
import MacroBody.Diagnostic
import MacroBody.Document.Basic
import MacroBody.Document.Json
import MacroBody.Document.Yaml.Basic
import MacroBody.Document.Yaml.Reading
import MacroBody.Document.Yaml.Scalar
import MacroBody.Files
import MacroBody.Grammar.AddressRange
import MacroBody.Grammar.Arguments
import MacroBody.Grammar.BlockTag
import MacroBody.Grammar.Error
import MacroBody.Grammar.Inspect
import MacroBody.Grammar.Limitation
import MacroBody.Grammar.MethodCall
import MacroBody.Grammar.Numeral
import MacroBody.Grammar.PatternLiteral
import MacroBody.Grammar.Payload
import MacroBody.Grammar.Property
import MacroBody.Grammar.Verdict
import MacroBody.Grammar.Word
import MacroBody.Main
import MacroBody.Number.Binary64
import MacroBody.Pattern.Bytes
import MacroBody.Pattern.ClassReader
import MacroBody.Pattern.Error
import MacroBody.Pattern.Escape
import MacroBody.Pattern.Expr
import MacroBody.Pattern.Layout
import MacroBody.Pattern.Match
import MacroBody.Pattern.Meaning
import MacroBody.Pattern.Property
import MacroBody.Pattern.Reader
import MacroBody.Pattern.Tree
import MacroBody.Proofs.Arguments.Append
import MacroBody.Proofs.Arguments.Balanced
import MacroBody.Proofs.Arguments.Counter
import MacroBody.Proofs.Arguments.Positions
import MacroBody.Proofs.Arguments.Written
import MacroBody.Proofs.Diagnostic.Context
import MacroBody.Proofs.Diagnostic.Window
import MacroBody.Proofs.Grammar.CallForm
import MacroBody.Proofs.Grammar.HexNumeral
import MacroBody.Proofs.Grammar.Limitation
import MacroBody.Proofs.Grammar.LimitationForm
import MacroBody.Proofs.Grammar.Marker
import MacroBody.Proofs.Grammar.Message
import MacroBody.Proofs.Grammar.Numeral
import MacroBody.Proofs.Grammar.NumeralValue
import MacroBody.Proofs.Grammar.Origin
import MacroBody.Proofs.Grammar.Overlap
import MacroBody.Proofs.Grammar.Padding
import MacroBody.Proofs.Grammar.PlainForm
import MacroBody.Proofs.Grammar.PropertyForms
import MacroBody.Proofs.Grammar.PropertyHead
import MacroBody.Proofs.Grammar.RangeForm
import MacroBody.Proofs.Grammar.RangeFormat
import MacroBody.Proofs.Grammar.RangeLine
import MacroBody.Proofs.Grammar.RangeStages
import MacroBody.Proofs.Grammar.RangeSyntax
import MacroBody.Proofs.Grammar.RangeWord
import MacroBody.Proofs.Grammar.Shadowing
import MacroBody.Proofs.Grammar.Shape
import MacroBody.Proofs.Grammar.TokenLists
import MacroBody.Proofs.Record.Dispatch
import MacroBody.Proofs.Record.History
import MacroBody.Proofs.Record.Order
import MacroBody.Proofs.Scan.Append
import MacroBody.Proofs.Scan.Consistency
import MacroBody.Proofs.Scan.Course
import MacroBody.Proofs.Scan.Diagnostics
import MacroBody.Proofs.Scan.Replay
import MacroBody.Proofs.Scan.Rows
import MacroBody.Proofs.Scan.Skipping
import MacroBody.Proofs.Scope.Basic
import MacroBody.Proofs.Scope.Bracketed
import MacroBody.Proofs.Scope.Calls
import MacroBody.Proofs.Settings.Fields
import MacroBody.Proofs.Settings.Layers
import MacroBody.Proofs.Text.Basic
import MacroBody.Proofs.Text.Bytes
import MacroBody.Proofs.Text.Joined
import MacroBody.Proofs.Text.Lines
import MacroBody.Proofs.Text.Padding
import MacroBody.Proofs.Text.Parts
import MacroBody.Proofs.Text.TokenList
import MacroBody.Record
import MacroBody.Scan
import MacroBody.Scope
import MacroBody.Settings.Basic
import MacroBody.Settings.Decode
import MacroBody.Settings.Path
import MacroBody.Settings.Tree
import MacroBody.Text.Basic
import MacroBody.Text.Spelling
import MacroBody.Toml.Moment
import MacroBody.Toml.Reader
import MacroBody.Toml.Value
import MacroBody.Vocabulary
