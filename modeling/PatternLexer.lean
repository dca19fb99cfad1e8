import PatternLexer.Decimal.Binary64
import PatternLexer.Decimal.Shortest
import PatternLexer.Files
import PatternLexer.Json.Basic
import PatternLexer.Json.Parser
import PatternLexer.Json.Printer
import PatternLexer.Json.Record
import PatternLexer.Kind
import PatternLexer.Lexer.Basic
import PatternLexer.Lexer.Error
import PatternLexer.Lexer.Metrics
import PatternLexer.Lexer.Run
import PatternLexer.Lexer.Scan
import PatternLexer.LoadError
import PatternLexer.Log.Code
import PatternLexer.Log.Elapsed
import PatternLexer.Log.Event
import PatternLexer.Log.Instant
import PatternLexer.Log.Level
import PatternLexer.Log.Service
import PatternLexer.Session.Basic
import PatternLexer.Session.Reading
import PatternLexer.Session.Setup
import PatternLexer.Session.Summary
import PatternLexer.Settings.Document
import PatternLexer.Settings.Preferences
import PatternLexer.Table.Basic
import PatternLexer.Table.Builtin
import PatternLexer.Table.Json
import PatternLexer.Table.Loading
import PatternLexer.Tape
import PatternLexer.Tape.Json
import PatternLexer.Text.Graphic
import PatternLexer.Text.Quoted
import PatternLexer.Token
import PatternLexer.Token.Json
import PatternLexer.Toml.Document
import PatternLexer.Toml.Scalar
import PatternLexer.Toml.Text
import PatternLexer.Toml.Value
import PatternLexer.Proofs.Tape.Halves
import PatternLexer.Proofs.Tape.Passed
import PatternLexer.Proofs.Lexer.Reading
import PatternLexer.Proofs.Lexer.Splice
import PatternLexer.Proofs.Lexer.Sequence
import PatternLexer.Proofs.Lexer.Loops
import PatternLexer.Proofs.Lexer.Calls
import PatternLexer.Proofs.Lexer.Coherence
import PatternLexer.Proofs.Lexer.Concatenation
import PatternLexer.Proofs.Lexer.Errors
import PatternLexer.Proofs.Lexer.Finality
import PatternLexer.Proofs.Lexer.Shift
import PatternLexer.Proofs.Lexer.Counts
import PatternLexer.Proofs.Lexer.Reports
import PatternLexer.Proofs.Log.Memory
import PatternLexer.Proofs.Log.Message
import PatternLexer.Proofs.Log.Writing
import PatternLexer.Proofs.Log.History
import PatternLexer.Proofs.Pattern.Grammar
import PatternLexer.Proofs.Pattern.Splitting
import PatternLexer.Proofs.Pattern.Families
import PatternLexer.Proofs.Pattern.Direct
import PatternLexer.Proofs.Pattern.Names
import PatternLexer.Proofs.Pattern.Shorthand
import PatternLexer.Proofs.Pattern.Repair
import PatternLexer.Proofs.Session.Setup
import PatternLexer.Proofs.Session.Installed
import PatternLexer.Proofs.Session.Publishing
import PatternLexer.Proofs.Session.Trace
import PatternLexer.Proofs.Pattern.Locality
import PatternLexer.Proofs.Pattern.Extension
import PatternLexer.Proofs.Json.Spelling
import PatternLexer.Proofs.Json.Inversion
import PatternLexer.Proofs.Json.Lossless
import PatternLexer.Proofs.Lexer.Returned
import PatternLexer.Proofs.Lexer.Progress
import PatternLexer.Proofs.Tape.Handling
import PatternLexer.Proofs.Tape.Obtained
import PatternLexer.Proofs.Pattern.Selectors
import PatternLexer.Proofs.Table.Exact
import PatternLexer.Proofs.Pattern.Unescaped
import PatternLexer.Proofs.Table.Members
import PatternLexer.Proofs.Lexer.MostUsed
import PatternLexer.Proofs.Session.Loading
import PatternLexer.Proofs.Session.Noninterference
import PatternLexer.Proofs.Json.Layout
import PatternLexer.Proofs.Table.NameOrder
import PatternLexer.Proofs.Tape.Lookahead
import PatternLexer.Proofs.Text.Boundary
import PatternLexer.Proofs.Log.Limit
import PatternLexer.Proofs.Log.Structured
import PatternLexer.Proofs.Settings.Precedence
