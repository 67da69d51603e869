import Oracion.Analysis
import Oracion.Analysis.Page
import Oracion.Category
import Oracion.Chars.Backspace
import Oracion.Chars.Blank
import Oracion.Chars.CaseRuns
import Oracion.Chars.Cased
import Oracion.Chars.Class
import Oracion.Chars.Clusters
import Oracion.Chars.Clusters.Conjuncts
import Oracion.Chars.Clusters.Marks
import Oracion.Chars.Clusters.Pictographs
import Oracion.Chars.Clusters.Role
import Oracion.Chars.Lines
import Oracion.Chars.Lower
import Oracion.Chars.Pieces
import Oracion.Command
import Oracion.CommandLine
import Oracion.CommandLine.Options
import Oracion.Completion
import Oracion.Decimal.Binary
import Oracion.Decimal.Fixed
import Oracion.Decimal.Numeral
import Oracion.Decimal.Rounding
import Oracion.Derivation
import Oracion.Derivation.Steps
import Oracion.Diagnostic
import Oracion.Disk
import Oracion.Duration
import Oracion.Fault
import Oracion.Fault.Place
import Oracion.Highlight
import Oracion.Json
import Oracion.Json.Codec
import Oracion.Json.Reader
import Oracion.Main
import Oracion.Manual
import Oracion.NounPhrase
import Oracion.Proofs.Analysis.Appearance
import Oracion.Proofs.Analysis.Canonical
import Oracion.Proofs.Analysis.Chronicle
import Oracion.Proofs.Analysis.Extension
import Oracion.Proofs.Analysis.Verdict
import Oracion.Proofs.Chars.Cuts
import Oracion.Proofs.Chars.Lines
import Oracion.Proofs.Chars.Lower
import Oracion.Proofs.Chars.Runs
import Oracion.Proofs.Chars.Settled
import Oracion.Proofs.Chars.Words
import Oracion.Proofs.Command.Reading
import Oracion.Proofs.Command.Switch
import Oracion.Proofs.CommandLine.Arguments
import Oracion.Proofs.CommandLine.Batch
import Oracion.Proofs.CommandLine.Corpus
import Oracion.Proofs.CommandLine.Failures
import Oracion.Proofs.CommandLine.Tracing
import Oracion.Proofs.Completion.Acceptance
import Oracion.Proofs.Completion.Narrowing
import Oracion.Proofs.Decimal.Numerals
import Oracion.Proofs.Derivation.Drawing
import Oracion.Proofs.Derivation.Nodes
import Oracion.Proofs.Derivation.Outline
import Oracion.Proofs.Derivation.Rules
import Oracion.Proofs.Derivation.Terminals
import Oracion.Proofs.Highlight.Colours
import Oracion.Proofs.Highlight.Erasure
import Oracion.Proofs.Json.Grammar
import Oracion.Proofs.Json.Recognition
import Oracion.Proofs.Json.RoundTrip
import Oracion.Proofs.Json.Tokens
import Oracion.Proofs.Language
import Oracion.Proofs.NounPhrase.LongestMatch
import Oracion.Proofs.NounPhrase.Rendering
import Oracion.Proofs.NounPhrase.Spelling
import Oracion.Proofs.Report.Lines
import Oracion.Proofs.Report.Noninterference
import Oracion.Proofs.Report.Totals
import Oracion.Proofs.Sentence.Account
import Oracion.Proofs.Sentence.Cursor
import Oracion.Proofs.Sentence.Divergence
import Oracion.Proofs.Sentence.Locality
import Oracion.Proofs.Sentence.Reach
import Oracion.Proofs.Sentence.Reading
import Oracion.Proofs.Sentence.Split
import Oracion.Proofs.Session.Independence
import Oracion.Proofs.Session.Transcript
import Oracion.Proofs.Trace.Agreement
import Oracion.Proofs.Trace.Filtering
import Oracion.Proofs.Trace.Legibility
import Oracion.Proofs.Trace.Nesting
import Oracion.Proofs.Trace.Reporting
import Oracion.Proofs.Trace.Retention
import Oracion.Proofs.Trace.Telling
import Oracion.Proofs.Vocabulary.Overlaps
import Oracion.Report
import Oracion.Sentence.Grammar
import Oracion.Sentence.Recognizer
import Oracion.Session
import Oracion.Session.Dialogue
import Oracion.Text
import Oracion.Token
import Oracion.Trace.Event
import Oracion.Trace.Layout
import Oracion.Trace.Tracer
import Oracion.Vocabulary
import Oracion.Vocabulary.WordSet
