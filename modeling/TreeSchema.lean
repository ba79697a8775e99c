import TreeSchema.CommandLine
import TreeSchema.CommandLine.Arguments
import TreeSchema.CommandLine.Document
import TreeSchema.CommandLine.Path
import TreeSchema.Conversion
import TreeSchema.Conversion.Reading
import TreeSchema.Failure
import TreeSchema.Finding
import TreeSchema.Finding.Code
import TreeSchema.Finding.Violation
import TreeSchema.Json.Error
import TreeSchema.Json.Printer
import TreeSchema.Json.Reader
import TreeSchema.Log
import TreeSchema.Main
import TreeSchema.Number.Basic
import TreeSchema.Number.Decimal
import TreeSchema.Number.Double
import TreeSchema.Number.Numeral
import TreeSchema.Number.Text
import TreeSchema.Outcome
import TreeSchema.Pattern.Class
import TreeSchema.Pattern.Compile
import TreeSchema.Pattern.Error
import TreeSchema.Pattern.Flag
import TreeSchema.Pattern.Reader
import TreeSchema.Pattern.Reader.Basic
import TreeSchema.Pattern.Reader.Escape
import TreeSchema.Pattern.Reader.Group
import TreeSchema.Pattern.Search
import TreeSchema.Pattern.Syntax
import TreeSchema.Pointer
import TreeSchema.Pointer.Join
import TreeSchema.Report
import TreeSchema.Run
import TreeSchema.Run.Array
import TreeSchema.Run.Basic
import TreeSchema.Run.Combination
import TreeSchema.Run.Congruence
import TreeSchema.Run.Depth
import TreeSchema.Run.Node
import TreeSchema.Run.Object
import TreeSchema.Run.Walk
import TreeSchema.Schema.Constraint
import TreeSchema.Schema.Default
import TreeSchema.Schema.Fault
import TreeSchema.Schema.Keyword
import TreeSchema.Schema.Options
import TreeSchema.Schema.Position
import TreeSchema.Settings
import TreeSchema.Text.Blank
import TreeSchema.Text.Case
import TreeSchema.Text.CharacterName
import TreeSchema.Text.CharacterName.Aliases
import TreeSchema.Text.CharacterName.Basic
import TreeSchema.Text.CharacterName.Letters
import TreeSchema.Text.CharacterName.Symbols
import TreeSchema.Text.Digit
import TreeSchema.Text.Identifier
import TreeSchema.Text.Letter
import TreeSchema.Text.Printable
import TreeSchema.Text.Quoted
import TreeSchema.Text.Ranges
import TreeSchema.Tree
import TreeSchema.Tree.Address
import TreeSchema.Tree.Equality
import TreeSchema.Tree.Kind
import TreeSchema.Tree.Shown
import TreeSchema.Validator
import TreeSchema.Yaml.Error
import TreeSchema.Yaml.Flow
import TreeSchema.Yaml.Reader
import TreeSchema.Yaml.Scalar
import TreeSchema.Proofs.Collecting
import TreeSchema.Proofs.Cap
import TreeSchema.Proofs.Passing
import TreeSchema.Proofs.FailFast
import TreeSchema.Proofs.Constraint
import TreeSchema.Proofs.Satisfaction
import TreeSchema.Proofs.Judging.Basic
import TreeSchema.Proofs.Judging.Object
import TreeSchema.Proofs.Judging.Array
import TreeSchema.Proofs.Judging.Combination
import TreeSchema.Proofs.Conformance
import TreeSchema.Proofs.Settling.Basic
import TreeSchema.Proofs.Settling.Object
import TreeSchema.Proofs.Settling.Array
import TreeSchema.Proofs.Idempotence
import TreeSchema.Proofs.Sparing
import TreeSchema.Proofs.Widening
import TreeSchema.Proofs.Account
import TreeSchema.Proofs.Writing
import TreeSchema.Proofs.Totality
import TreeSchema.Proofs.Location
import TreeSchema.Proofs.Evolution
import TreeSchema.Proofs.Skeleton
import TreeSchema.Proofs.WellFormed
import TreeSchema.Proofs.Alternatives
import TreeSchema.Proofs.Owning.Basic
import TreeSchema.Proofs.Owning.Object
import TreeSchema.Proofs.Owning.Combination
import TreeSchema.Proofs.Uniqueness
import TreeSchema.Proofs.Rearranging
import TreeSchema.Proofs.Matching
import TreeSchema.Proofs.Mirroring.Basic
import TreeSchema.Proofs.Mirroring.Node
import TreeSchema.Proofs.Mirroring.Object
import TreeSchema.Proofs.Mirroring.Array
import TreeSchema.Proofs.Mirroring.Combination
import TreeSchema.Proofs.Respelling
import TreeSchema.Proofs.Halting
import TreeSchema.Proofs.Adoption
import TreeSchema.Proofs.Presence
import TreeSchema.Proofs.Legibility.Basic
import TreeSchema.Proofs.Legibility.Node
import TreeSchema.Proofs.Legibility.Object
import TreeSchema.Proofs.Legibility.Array
import TreeSchema.Proofs.Legibility.Combination
import TreeSchema.Proofs.Legibility
import TreeSchema.Proofs.Rounding
import TreeSchema.Proofs.Nearest
import TreeSchema.Proofs.Numerals
import TreeSchema.Proofs.Divisibility
import TreeSchema.Proofs.Governing
import TreeSchema.Proofs.Leading
import TreeSchema.Proofs.Removal
import TreeSchema.Proofs.Visiting
import TreeSchema.Proofs.Landing
import TreeSchema.Proofs.Answering
import TreeSchema.Proofs.Agreement
import TreeSchema.Proofs.Layout
import TreeSchema.Proofs.RoundTrip
import TreeSchema.Proofs.Equivalence
import TreeSchema.Proofs.Duplicates
import TreeSchema.Proofs.Declaring
import TreeSchema.Proofs.Untouched
import TreeSchema.Proofs.Decoding
import TreeSchema.Proofs.Grouping
