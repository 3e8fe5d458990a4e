import TypeLint.Allow.Directive
import TypeLint.Allow.Index
import TypeLint.Analysis.Confirmation
import TypeLint.Analysis.Conflict
import TypeLint.Analysis.Context
import TypeLint.Analysis.Failure
import TypeLint.Analysis.Finding
import TypeLint.Analysis.Matching
import TypeLint.Analysis.Proposal
import TypeLint.Catalog.Annotations
import TypeLint.Catalog.Assertions
import TypeLint.Catalog.Basic
import TypeLint.Catalog.BroadTypes
import TypeLint.Catalog.Comments
import TypeLint.Catalog.Declarations
import TypeLint.Catalog.Enums
import TypeLint.Catalog.Shapes
import TypeLint.Catalog.Signatures
import TypeLint.Catalog.Syntax
import TypeLint.Catalog.TypeParameters
import TypeLint.Command.Arguments
import TypeLint.Command.Check
import TypeLint.Command.Discovery
import TypeLint.Command.Error
import TypeLint.Command.Output
import TypeLint.Command.Run
import TypeLint.Command.Settings
import TypeLint.Config.Basic
import TypeLint.Config.Decode
import TypeLint.Config.Encode
import TypeLint.ContentHash
import TypeLint.Diagnostic.Apply
import TypeLint.Diagnostic.Basic
import TypeLint.Engine.Basic
import TypeLint.Engine.Files
import TypeLint.Engine.Parser
import TypeLint.FileStore.Basic
import TypeLint.Fix.Basic
import TypeLint.Fix.Edit
import TypeLint.Glob.Expand
import TypeLint.Glob.Pattern
import TypeLint.Ignore.Pattern
import TypeLint.Ignore.Rules
import TypeLint.Ignore.UserList
import TypeLint.Ignore.Walk
import TypeLint.Json.Basic
import TypeLint.Json.Printer
import TypeLint.LineIndex
import TypeLint.Main
import TypeLint.Path
import TypeLint.Pattern.Basic
import TypeLint.Pattern.Captures
import TypeLint.Pattern.Template
import TypeLint.Report.Basic
import TypeLint.Report.Decode
import TypeLint.Report.Encode
import TypeLint.Rule.Basic
import TypeLint.Rule.RuleSet
import TypeLint.Scope.Basic
import TypeLint.Scope.TypeReference
import TypeLint.Span.Basic
import TypeLint.Span.Conflict
import TypeLint.Text.Alphanumeric
import TypeLint.Text.CharClass
import TypeLint.Text.Chars
import TypeLint.Text.Quoted
import TypeLint.Text.Slice
import TypeLint.Text.Unprintable
import TypeLint.Toml.Parser
import TypeLint.Toml.Scalar
import TypeLint.Toml.Value
import TypeLint.Tree.Basic
import TypeLint.Tree.Builder
import TypeLint.Tree.Entry
import TypeLint.Tree.Walk
import TypeLint.TypeInfo.Basic
import TypeLint.TypeInfo.Local
import TypeLint.Proofs.Fix.Edits
import TypeLint.Proofs.Analysis.Election
import TypeLint.Proofs.Analysis.LifeCycle
import TypeLint.Proofs.Analysis.JointFixes
import TypeLint.Proofs.FileStore.AllOrNothing
import TypeLint.Proofs.Rule.Identity
import TypeLint.Proofs.StableSort
import TypeLint.Proofs.Analysis.Restriction
import TypeLint.Proofs.Analysis.Failures
import TypeLint.Proofs.Analysis.Isolation
import TypeLint.Proofs.Analysis.Provenance
import TypeLint.Proofs.Tree.Building
import TypeLint.Proofs.Analysis.SeverityFloor
import TypeLint.Proofs.Rule.SoundFixes
import TypeLint.Proofs.Analysis.Faultless
import TypeLint.Proofs.Allow.Coverage
import TypeLint.Proofs.Rule.Spelling
import TypeLint.Proofs.Rule.Lookup
import TypeLint.Proofs.Rule.History
import TypeLint.Proofs.Report.RoundTrip
import TypeLint.Proofs.Pattern.Rollback
import TypeLint.Proofs.Fix.Simultaneous
import TypeLint.Proofs.Analysis.Greedy
import TypeLint.Proofs.Command.Summary
import TypeLint.Proofs.Tree.Walks
import TypeLint.Proofs.Catalog.TypeParameters
import TypeLint.Proofs.Catalog.Inlining
import TypeLint.Proofs.Analysis.Complete
import TypeLint.Proofs.Catalog.GroupDirectives
import TypeLint.Proofs.Fix.Permutation
import TypeLint.Proofs.Scope.Declarations
import TypeLint.Proofs.Tree.Preorder
import TypeLint.Proofs.Catalog.Merging
import TypeLint.Proofs.Pattern.Templates
import TypeLint.Proofs.Span.Sweep
import TypeLint.Proofs.Analysis.Fates
import TypeLint.Proofs.Analysis.Collecting
import TypeLint.Proofs.Allow.Writing
import TypeLint.Proofs.Positions
import TypeLint.Proofs.Catalog.Enums
import TypeLint.Proofs.TypeInfo.Returns
import TypeLint.Proofs.Catalog.Comments
import TypeLint.Proofs.Analysis.Mirroring
import TypeLint.Proofs.Scope.Counting
import TypeLint.Proofs.Catalog.ParameterLists
