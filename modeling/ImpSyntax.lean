import ImpSyntax.Text.Ranges
import ImpSyntax.Text.Printable
import ImpSyntax.Text.Identifier
import ImpSyntax.Text.Digit
import ImpSyntax.Text.Quoted
import ImpSyntax.Text.Utf8
import ImpSyntax.Symbol
import ImpSyntax.Rule
import ImpSyntax.Token
import ImpSyntax.Lexer.Error
import ImpSyntax.Lexer.Scan
import ImpSyntax.Lexer.Basic
import ImpSyntax.Feed
import ImpSyntax.Check.Event
import ImpSyntax.Check.Cursor
import ImpSyntax.Check.Rules
import ImpSyntax.Check.Run
import ImpSyntax.Report.Chain
import ImpSyntax.Report.Causes
import ImpSyntax.Report.Record
import ImpSyntax.Report.Trace
import ImpSyntax.Report.Observer
import ImpSyntax.Source.Load
import ImpSyntax.Source.Snippet
import ImpSyntax.Args.Spec
import ImpSyntax.Args.Pattern
import ImpSyntax.Args.Classify
import ImpSyntax.Args.Parse
import ImpSyntax.Args.Usage
import ImpSyntax.Cli.Spec
import ImpSyntax.Cli.Files
import ImpSyntax.Cli.Host
import ImpSyntax.Cli.Commands
import ImpSyntax.Main
import ImpSyntax.Proofs.Snippet
import ImpSyntax.Proofs.Grammar
import ImpSyntax.Proofs.Reading
import ImpSyntax.Proofs.RuleInduction
import ImpSyntax.Proofs.Nesting
import ImpSyntax.Proofs.Chains
import ImpSyntax.Proofs.Soundness
import ImpSyntax.Proofs.Lookahead
import ImpSyntax.Proofs.TextFeed
import ImpSyntax.Proofs.Acceptance
import ImpSyntax.Proofs.Derivation
import ImpSyntax.Proofs.Recording
import ImpSyntax.Proofs.LexerStream
import ImpSyntax.Proofs.Answers
import ImpSyntax.Proofs.Places
import ImpSyntax.Proofs.Caret
import ImpSyntax.Proofs.CheckCommand
import ImpSyntax.Proofs.Expectations
import ImpSyntax.Proofs.Tracing
import ImpSyntax.Proofs.Lexemes
import ImpSyntax.Proofs.Tiling
import ImpSyntax.Proofs.Respacing
import ImpSyntax.Proofs.CauseChains
import ImpSyntax.Proofs.Leads
import ImpSyntax.Proofs.Bounds
