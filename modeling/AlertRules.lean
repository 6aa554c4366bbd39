import AlertRules.Text.UpperCase
import AlertRules.Duration
import AlertRules.Placeholder
import AlertRules.Query
import AlertRules.Rule
import AlertRules.Yaml.Char
import AlertRules.Yaml.Plain
import AlertRules.Yaml.Quoted
import AlertRules.Yaml.Block
import AlertRules.Yaml.Scalar
import AlertRules.Yaml.Token.Lexer
import AlertRules.Yaml.Node
import AlertRules.Rule.Document
import AlertRules.Definition.Store
import AlertRules.Definition.Build
import AlertRules.Rule.Normal
import AlertRules.Rule.Difference
import AlertRules.Ruler
import AlertRules.Ruler.Script
import AlertRules.Sync
import AlertRules.Settings.EnvFile
import AlertRules.Main
import AlertRules.Proofs.Text.Trim
import AlertRules.Proofs.Text.Decimal
import AlertRules.Proofs.Duration.Reading
import AlertRules.Proofs.Duration.Length
import AlertRules.Proofs.Labels
import AlertRules.Proofs.Rule.Difference
import AlertRules.Proofs.Rule.Normal
import AlertRules.Proofs.Outcome
import AlertRules.Proofs.Definition.Id
import AlertRules.Proofs.Definition.Build
import AlertRules.Proofs.Sync.Verify
import AlertRules.Proofs.Ruler.Address
import AlertRules.Proofs.Ruler.Cell
import AlertRules.Proofs.Sync.Run
import AlertRules.Proofs.Sync.Cell
import AlertRules.Proofs.Sync.Requests
import AlertRules.Proofs.Sync.Convergence
import AlertRules.Proofs.Ruler.Interleaving
import AlertRules.Proofs.Sync.Concurrent
import AlertRules.Proofs.Duration.Canonical
import AlertRules.Proofs.Query.Token
import AlertRules.Proofs.Query.Grammar
import AlertRules.Proofs.Query.Disabled
import AlertRules.Proofs.Definition.Disabled
import AlertRules.Proofs.Yaml.Char
import AlertRules.Proofs.Yaml.Plain
import AlertRules.Proofs.Yaml.Quoted
import AlertRules.Proofs.Yaml.Block
import AlertRules.Proofs.Yaml.Scalar
import AlertRules.Proofs.Yaml.Lexer
import AlertRules.Proofs.Yaml.Mapping
import AlertRules.Proofs.Yaml.Node
import AlertRules.Proofs.Yaml.Document
import AlertRules.Proofs.Yaml.Tree
import AlertRules.Proofs.Rule.Document
import AlertRules.Proofs.Ruler.Interference
import AlertRules.Proofs.Sync.Interference
import AlertRules.Proofs.Duration.Grammar
import AlertRules.Proofs.Duration.Exact
import AlertRules.Proofs.Ruler.History
import AlertRules.Proofs.Ruler.Isolation
import AlertRules.Proofs.Sync.Isolation
import AlertRules.Proofs.Placeholder.Brackets
import AlertRules.Proofs.Placeholder.Segments
import AlertRules.Proofs.Definition.Placeholders
import AlertRules.Proofs.Placeholder.Template
import AlertRules.Proofs.Placeholder.Detection
import AlertRules.Proofs.Placeholder.Notation
import AlertRules.Proofs.Placeholder.Adjacent
import AlertRules.Proofs.Placeholder.Sites
import AlertRules.Proofs.Text.UpperCase
import AlertRules.Proofs.Settings.Profile
import AlertRules.Proofs.CommandLine.Options
import AlertRules.Proofs.CommandLine.DryRun
import AlertRules.Proofs.Definition.Overrides
import AlertRules.Proofs.Definition.Durations
import AlertRules.Proofs.Duration.Truncation
import AlertRules.Proofs.Rule.Record
import AlertRules.Proofs.Rule.Strict
import AlertRules.Proofs.Rule.Listing
import AlertRules.Proofs.Rule.Canonical
import AlertRules.Proofs.Sync.Naming
