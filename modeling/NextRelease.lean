import NextRelease.Build.Context
import NextRelease.Build.Environment
import NextRelease.Commit.Category
import NextRelease.Commit.Classify
import NextRelease.Commit.Counts
import NextRelease.Failure
import NextRelease.Increment
import NextRelease.Layout.Cells
import NextRelease.Layout.Columns
import NextRelease.Layout.Markup
import NextRelease.Layout.Paragraph
import NextRelease.Layout.Sentence
import NextRelease.Log.Channel
import NextRelease.Log.Event
import NextRelease.Log.Line
import NextRelease.Log.Session
import NextRelease.Notes.Basic
import NextRelease.Notes.Reader
import NextRelease.Report.Board
import NextRelease.Report.OutputReader
import NextRelease.Report.StepOutput
import NextRelease.Report.Summary
import NextRelease.Report.TableReader
import NextRelease.Resolution.Basic
import NextRelease.Resolution.Events
import NextRelease.Resolution.Train
import NextRelease.Settings.Basic
import NextRelease.Settings.FileTree
import NextRelease.Settings.Load
import NextRelease.Sorting
import NextRelease.Text.Basic
import NextRelease.Text.Blank
import NextRelease.Text.Caseless
import NextRelease.Text.DecimalDigit
import NextRelease.Text.LowerCase
import NextRelease.Text.Numeral
import NextRelease.Text.Printable
import NextRelease.Text.Quoted
import NextRelease.Text.Styling
import NextRelease.Text.Utf8
import NextRelease.Text.WordCharacter
import NextRelease.Toml.Document
import NextRelease.Toml.Literal
import NextRelease.Toml.Node
import NextRelease.Toml.Number
import NextRelease.Toml.Scalar
import NextRelease.Value
import NextRelease.Version.Basic
import NextRelease.Version.Semantic
import NextRelease.Version.Tag
import NextRelease.Version.TagForm
import NextRelease.Proofs.Text.Lines
import NextRelease.Proofs.Text.Trim
import NextRelease.Proofs.Failure
import NextRelease.Proofs.Version.Order
import NextRelease.Proofs.Build.Suffix
import NextRelease.Proofs.Commit.Counts
import NextRelease.Proofs.Resolution.Answer
import NextRelease.Proofs.Resolution.Train
import NextRelease.Proofs.Notes.Lines
import NextRelease.Proofs.Notes.ReadBack
import NextRelease.Proofs.Report.Delimiter
import NextRelease.Proofs.Report.StepOutput
import NextRelease.Proofs.Notes.Headings
import NextRelease.Proofs.Resolution.Agreement
import NextRelease.Proofs.Version.Reading
import NextRelease.Proofs.Resolution.Failures
import NextRelease.Proofs.Resolution.Append
import NextRelease.Proofs.Resolution.Batches
import NextRelease.Proofs.Resolution.Reordering
import NextRelease.Proofs.Commit.Tidy
import NextRelease.Proofs.Notes.Tidy
import NextRelease.Proofs.Resolution.Tidy
import NextRelease.Proofs.Build.Environment
import NextRelease.Proofs.Resolution.FinalVersion
import NextRelease.Proofs.Resolution.Independence
import NextRelease.Proofs.Version.Semantic
import NextRelease.Proofs.Resolution.Semantic
import NextRelease.Proofs.Settings.Table
import NextRelease.Proofs.Version.Prefix
import NextRelease.Proofs.Build.DefaultBranch
import NextRelease.Proofs.Report.Table
import NextRelease.Proofs.Version.Grammar
import NextRelease.Proofs.Resolution.Unchanged
import NextRelease.Proofs.Settings.Load
import NextRelease.Proofs.Resolution.Events
import NextRelease.Proofs.Log.Run
import NextRelease.Proofs.Text.AnyCase
import NextRelease.Proofs.Version.Bump
import NextRelease.Proofs.Build.Variables
import NextRelease.Proofs.Commit.Breaking
import NextRelease.Proofs.Commit.Classification
import NextRelease.Proofs.Sorting
import NextRelease.Proofs.Text.Order
import NextRelease.Proofs.Value
import NextRelease.Proofs.Toml.Keys
import NextRelease.Proofs.Settings.Mapping
import NextRelease.Proofs.Toml.Document
import NextRelease.Proofs.Settings.Precedence
import NextRelease.Proofs.Commit.Subject
import NextRelease.Proofs.Settings.Validity
import NextRelease.Proofs.Resolution.Advisory
