import Turnstile.Command
import Turnstile.Command.Arguments
import Turnstile.Connective
import Turnstile.CounterModel
import Turnstile.Data
import Turnstile.Data.Json
import Turnstile.Disk
import Turnstile.Document
import Turnstile.Document.Build
import Turnstile.Document.Equality
import Turnstile.Document.Fault
import Turnstile.Document.Prove
import Turnstile.Document.Reduce
import Turnstile.Document.Store
import Turnstile.Document.Summary
import Turnstile.Document.Text
import Turnstile.Document.View
import Turnstile.Double
import Turnstile.Format
import Turnstile.Formula
import Turnstile.FormulaFile
import Turnstile.Limit
import Turnstile.Log
import Turnstile.Main
import Turnstile.Moment
import Turnstile.Numeral
import Turnstile.Parse
import Turnstile.ParseError
import Turnstile.Path
import Turnstile.Proof
import Turnstile.Reduct
import Turnstile.Rule
import Turnstile.Search
import Turnstile.Search.Table
import Turnstile.Sequent
import Turnstile.Settings
import Turnstile.Storage
import Turnstile.Template
import Turnstile.Text.Base64
import Turnstile.Text.CaseTable
import Turnstile.Text.Casing
import Turnstile.Text.Lines
import Turnstile.Text.Points
import Turnstile.Text.Printable
import Turnstile.Text.Quoted
import Turnstile.Text.Utf8
import Turnstile.Text.Word
import Turnstile.Token
import Turnstile.Tree
import Turnstile.Yaml.Cursor
import Turnstile.Yaml.Fault
import Turnstile.Yaml.Mark
import Turnstile.Yaml.Node
import Turnstile.Yaml.Read
import Turnstile.Yaml.Scalar
import Turnstile.Yaml.Spelling
import Turnstile.Yaml.Tag
import Turnstile.Yaml.Token
import Turnstile.Proofs.UniqueReading
import Turnstile.Proofs.Inversion
import Turnstile.Proofs.TextEquality
import Turnstile.Proofs.SearchRecord
import Turnstile.Proofs.Growth
import Turnstile.Proofs.Decision
import Turnstile.Proofs.Subformula
import Turnstile.Proofs.OpenLeaf
import Turnstile.Proofs.TypedDocument
import Turnstile.Proofs.CounterModels
import Turnstile.Proofs.Grammar
import Turnstile.Proofs.ShuntingYard
import Turnstile.Proofs.Acceptance
import Turnstile.Proofs.Precedence
import Turnstile.Proofs.Coverage
import Turnstile.Proofs.ManualDerivation
import Turnstile.Proofs.DepthLimit
import Turnstile.Proofs.Rendering
import Turnstile.Proofs.JsonString
import Turnstile.Proofs.JsonValue
import Turnstile.Proofs.StoredDocument
import Turnstile.Proofs.RecursiveSearch
import Turnstile.Proofs.SearchBound
import Turnstile.Proofs.RepeatedSteps
import Turnstile.Proofs.DiskWrite
import Turnstile.Proofs.FormulaLines
import Turnstile.Proofs.Lexemes
import Turnstile.Proofs.TokenConservation
import Turnstile.Proofs.Reparsing
import Turnstile.Proofs.PendingOperators
import Turnstile.Proofs.UncheckedStacks
import Turnstile.Proofs.CommandOptions
import Turnstile.Proofs.DefaultSettings
import Turnstile.Proofs.ParseFaults
import Turnstile.Proofs.WrittenProofs
import Turnstile.Proofs.CommandVerdict
import Turnstile.Proofs.SignedSubformula
import Turnstile.Proofs.FirstOffence
import Turnstile.Proofs.FileRoundTrip
import Turnstile.Proofs.Evaluation
import Turnstile.Proofs.LayeredSettings
import Turnstile.Proofs.Traversal
import Turnstile.Proofs.ProofStatistics
import Turnstile.Proofs.PrintedTree
import Turnstile.Proofs.OperatorOrder
