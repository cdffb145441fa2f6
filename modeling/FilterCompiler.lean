import FilterCompiler.Catalog
import FilterCompiler.Compilation
import FilterCompiler.Configuration.Field
import FilterCompiler.Configuration.Settings
import FilterCompiler.Filter.Argument
import FilterCompiler.Filter.Basic
import FilterCompiler.FreeText.Expression
import FilterCompiler.FreeText.Fault
import FilterCompiler.FreeText.Reading
import FilterCompiler.FreeText.Token
import FilterCompiler.FreeText.Words
import FilterCompiler.History
import FilterCompiler.Json.Basic
import FilterCompiler.Json.Reading
import FilterCompiler.Outcome
import FilterCompiler.Query.Basic
import FilterCompiler.Query.Render
import FilterCompiler.Rule.Basic
import FilterCompiler.Rule.Comparison
import FilterCompiler.Rule.Membership
import FilterCompiler.Rule.Ranking
import FilterCompiler.Rule.Wording
import FilterCompiler.Text.Alphanumeric
import FilterCompiler.Text.Basic
import FilterCompiler.Text.LowerCase
import FilterCompiler.Text.Printable
import FilterCompiler.Value.Calendar
import FilterCompiler.Value.Duration
import FilterCompiler.Value.Encoding
import FilterCompiler.Value.Moment
import FilterCompiler.Value.Vocabulary
import FilterCompiler.Weight.Basic
import FilterCompiler.Weight.Reading
import FilterCompiler.Weight.Shortest
import FilterCompiler.Proofs.Matching
import FilterCompiler.Proofs.Limit
import FilterCompiler.Proofs.Meaning
import FilterCompiler.Proofs.Permission
import FilterCompiler.Proofs.Confinement
import FilterCompiler.Proofs.Acceptance
import FilterCompiler.Proofs.Anchoring
import FilterCompiler.Proofs.NormalForm
import FilterCompiler.Proofs.Algebra
import FilterCompiler.Proofs.Complement
import FilterCompiler.Proofs.Partition
import FilterCompiler.Proofs.Occurrence
import FilterCompiler.Proofs.Comparison
import FilterCompiler.Proofs.Calendar
import FilterCompiler.Proofs.Chronology
import FilterCompiler.Proofs.Moments
import FilterCompiler.Proofs.Past
import FilterCompiler.Proofs.Ranking
import FilterCompiler.Proofs.LowerCase
import FilterCompiler.Proofs.Shape
import FilterCompiler.Proofs.Construction
import FilterCompiler.Proofs.Searchable
import FilterCompiler.Proofs.Absence
import FilterCompiler.Proofs.Scanning
import FilterCompiler.Proofs.Wrapping
import FilterCompiler.Proofs.Naming
import FilterCompiler.Proofs.Scaling
import FilterCompiler.Proofs.Lookup
import FilterCompiler.Proofs.Finishing
import FilterCompiler.Proofs.Spans
import FilterCompiler.Proofs.Spelling
import FilterCompiler.Proofs.Durations
