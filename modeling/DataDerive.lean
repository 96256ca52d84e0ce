import DataDerive.ClassInstance.Derive
import DataDerive.ClassInstance.Generator
import DataDerive.ClassInstance.Naming
import DataDerive.Code.Body
import DataDerive.Code.CodeType
import DataDerive.Code.Expr
import DataDerive.Code.Item
import DataDerive.Code.Lines
import DataDerive.Code.Module
import DataDerive.CommandLine.Command
import DataDerive.CommandLine.FileProgram
import DataDerive.CommandLine.FileTree
import DataDerive.CommandLine.Invocation
import DataDerive.CommandLine.Response
import DataDerive.CommandLine.Usage
import DataDerive.Declaration
import DataDerive.Derivation
import DataDerive.Derive.Access
import DataDerive.Derive.Construction
import DataDerive.Derive.Dispatch
import DataDerive.Derive.Generate
import DataDerive.Derive.Spelling
import DataDerive.Diagnostic.Basic
import DataDerive.Diagnostic.Code
import DataDerive.Diagnostic.Queue
import DataDerive.Diagnostic.Report
import DataDerive.FreshNames
import DataDerive.Identifier
import DataDerive.Instance.Location
import DataDerive.Instance.Provider
import DataDerive.Instance.Search
import DataDerive.Json.Basic
import DataDerive.Json.Quoted
import DataDerive.Json.Reader
import DataDerive.Json.Writer
import DataDerive.Main
import DataDerive.Model.Basic
import DataDerive.Model.Builder
import DataDerive.Model.FieldIndex
import DataDerive.Model.FieldName
import DataDerive.NameTable
import DataDerive.Proofs.Replacement
import DataDerive.Run.Basic
import DataDerive.Run.Configuration
import DataDerive.Run.Report
import DataDerive.Snapshot.Document
import DataDerive.Snapshot.Loading
import DataDerive.Span
import DataDerive.Substitution
import DataDerive.Text.Basic
import DataDerive.Text.Case
import DataDerive.Text.Letter
import DataDerive.TypeExpr.Basic
import DataDerive.TypeExpr.Reader
import DataDerive.TypeExpr.Text
import DataDerive.Unification
import DataDerive.Proofs.Resolution
import DataDerive.Proofs.Unification.Run
import DataDerive.Proofs.Unification.Levels
import DataDerive.Proofs.Unification.MostGeneral
import DataDerive.Proofs.Unification.Matching
import DataDerive.Proofs.Unification.Renaming
import DataDerive.Proofs.FreshNames
import DataDerive.Proofs.Instance.Steps
import DataDerive.Proofs.Instance.Derives
import DataDerive.Proofs.Instance.Soundness
import DataDerive.Proofs.Instance.Completeness
import DataDerive.Proofs.Instance.SelfInstance
import DataDerive.Proofs.Instance.Invariants
import DataDerive.Proofs.Instance.Occurrences
import DataDerive.Proofs.Instance.Attempts
import DataDerive.Proofs.Instance.Alignment
import DataDerive.Proofs.Instance.Correspondence
import DataDerive.Proofs.Instance.Candidates
import DataDerive.Proofs.Instance.Rearrangement
import DataDerive.Proofs.Instance.Matches
import DataDerive.Proofs.Instance.Fallback
import DataDerive.Proofs.Instance.Ranking
import DataDerive.Proofs.Instance.Providers
import DataDerive.Proofs.Derived
import DataDerive.Proofs.Model.Layout
import DataDerive.Proofs.Model.Build
import DataDerive.Proofs.Model.WellFormed
import DataDerive.Proofs.Model.Witness
import DataDerive.Proofs.Model.Renaming
import DataDerive.Proofs.Model.Hygiene
import DataDerive.Proofs.Model.Encodings
import DataDerive.Proofs.TypeExpr.Reading
import DataDerive.Proofs.TypeExpr.RoundTrip
import DataDerive.Proofs.TypeExpr.Bounds
import DataDerive.Proofs.TypeExpr.Grammar
import DataDerive.Proofs.TypeExpr.Acceptance
import DataDerive.Proofs.Code.Scope
import DataDerive.Proofs.Code.Unit
import DataDerive.Proofs.Derive.Scoping
import DataDerive.Proofs.Derive.Outcomes
import DataDerive.Proofs.Derive.Names
import DataDerive.Proofs.Derive.Clashes
import DataDerive.Proofs.ClassInstance.Found
import DataDerive.Proofs.ClassInstance.Scoping
import DataDerive.Proofs.ClassInstance.RecursiveUses
import DataDerive.Proofs.Diagnostic.Queue
import DataDerive.Proofs.Run.Severity
import DataDerive.Proofs.Run.Outcome
import DataDerive.Proofs.CommandLine.FileTree
import DataDerive.Proofs.CommandLine.Modules
import DataDerive.Proofs.Diagnostic.History
import DataDerive.Proofs.Json.RoundTrip
import DataDerive.Proofs.Diagnostic.Decoding
import DataDerive.Proofs.Code.Paths
import DataDerive.Proofs.Code.References
import DataDerive.Proofs.Derive.Imports
import DataDerive.Proofs.Identifier
import DataDerive.Proofs.Derive.Hygiene
import DataDerive.Proofs.ClassInstance.Hygiene
import DataDerive.Proofs.Fallible
import DataDerive.Proofs.NameTable
import DataDerive.Proofs.Snapshot.Scoping
import DataDerive.Proofs.Unification.Termination
import DataDerive.Proofs.Unification.Extension
import DataDerive.Proofs.Unification.Symmetry
import DataDerive.Proofs.Unification.Exactness
import DataDerive.Proofs.Cycles
import DataDerive.Proofs.Instance.Groups
import DataDerive.Proofs.Instance.Decision
import DataDerive.Proofs.Derive.Accessors
import DataDerive.Proofs.Model.Faults
import DataDerive.Proofs.Model.FieldName
import DataDerive.Proofs.Derive.Variants
import DataDerive.Proofs.Derive.Rebuilding
import DataDerive.Proofs.Code.Calls
import DataDerive.Proofs.ClassInstance.Receivers
import DataDerive.Proofs.ClassInstance.Consultations
import DataDerive.Proofs.Instance.Specificity
import DataDerive.Proofs.Instance.ProviderOrder
import DataDerive.Proofs.Derive.Storage
import DataDerive.Proofs.Code.Mentions
import DataDerive.Proofs.Derive.OwnName
import DataDerive.Proofs.ClassInstance.OwnName
import DataDerive.Proofs.Diagnostic.Repetition
import DataDerive.Proofs.Diagnostic.Place
import DataDerive.Proofs.Derive.Indirection
import DataDerive.Proofs.Snapshot.FurtherKeys
import DataDerive.Proofs.FreshNames.Uses
import DataDerive.Proofs.ClassInstance.Hoisting
