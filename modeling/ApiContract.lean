import ApiContract.Assoc
import ApiContract.Binary64
import ApiContract.Binary64.Shortest
import ApiContract.Check
import ApiContract.CommandLine.Arguments
import ApiContract.CommandLine.Execution
import ApiContract.Context
import ApiContract.DocumentSet
import ApiContract.DocumentText
import ApiContract.Draft
import ApiContract.ErrorCode
import ApiContract.Exchange
import ApiContract.Failure
import ApiContract.Format
import ApiContract.Format.Address
import ApiContract.Format.DateTime
import ApiContract.Format.HostMapping
import ApiContract.Format.HostName
import ApiContract.Format.Punycode
import ApiContract.Format.Uri
import ApiContract.Issue
import ApiContract.Json.Literal
import ApiContract.Json.Number
import ApiContract.Json.Reader
import ApiContract.Json.Token
import ApiContract.Json.Value
import ApiContract.Json.Writer
import ApiContract.Main
import ApiContract.Message
import ApiContract.Operation.Assembly
import ApiContract.Operation.Coercion
import ApiContract.Operation.Model
import ApiContract.Pass.Basic
import ApiContract.Pass.Closure
import ApiContract.Pass.Documents
import ApiContract.Pass.Hierarchy
import ApiContract.Pass.Inheritance
import ApiContract.Pass.Nullability
import ApiContract.Pass.Pipeline
import ApiContract.Pass.Schedule
import ApiContract.Pattern.Anchor
import ApiContract.Pattern.Backtracking.Machine
import ApiContract.Pattern.Backtracking.Plan
import ApiContract.Pattern.Backtracking.Reader
import ApiContract.Pattern.Backtracking.Tree
import ApiContract.Pattern.Matcher
import ApiContract.Pattern.Meaning
import ApiContract.Pattern.Notation
import ApiContract.Pattern.Program
import ApiContract.Pattern.Regular
import ApiContract.Pattern.Script
import ApiContract.Pattern.Search
import ApiContract.Pattern.Syntax
import ApiContract.Pattern.Weight
import ApiContract.Pointer
import ApiContract.Proofs.Assoc
import ApiContract.Proofs.Binary64
import ApiContract.Proofs.Coercion
import ApiContract.Proofs.Compilation.Assembly
import ApiContract.Proofs.Compilation.Correctness
import ApiContract.Proofs.Compilation.Mirror
import ApiContract.Proofs.Compilation.Missing
import ApiContract.Proofs.Compilation.Reports
import ApiContract.Proofs.Compilation.Request
import ApiContract.Proofs.Compilation.Skipping
import ApiContract.Proofs.Compilation.Success
import ApiContract.Proofs.Compilation.Transfer
import ApiContract.Proofs.Compilation.Wrapper
import ApiContract.Proofs.Contract.Additional
import ApiContract.Proofs.Contract.Addresses
import ApiContract.Proofs.Contract.Caching
import ApiContract.Proofs.Contract.Closure
import ApiContract.Proofs.Contract.Coercion
import ApiContract.Proofs.Contract.Compilation
import ApiContract.Proofs.Contract.Completeness
import ApiContract.Proofs.Contract.ContentType
import ApiContract.Proofs.Contract.Discovery
import ApiContract.Proofs.Contract.Entering
import ApiContract.Proofs.Contract.Enums
import ApiContract.Proofs.Contract.Formats
import ApiContract.Proofs.Contract.Guarding
import ApiContract.Proofs.Contract.Hierarchy
import ApiContract.Proofs.Contract.Inheritance
import ApiContract.Proofs.Contract.Loading
import ApiContract.Proofs.Contract.Lookup
import ApiContract.Proofs.Contract.Missing
import ApiContract.Proofs.Contract.Naming
import ApiContract.Proofs.Contract.Navigation
import ApiContract.Proofs.Contract.Nullability
import ApiContract.Proofs.Contract.Ordering
import ApiContract.Proofs.Contract.Overriding
import ApiContract.Proofs.Contract.Paths
import ApiContract.Proofs.Contract.Registration
import ApiContract.Proofs.Contract.Reporting
import ApiContract.Proofs.Contract.Representation
import ApiContract.Proofs.Contract.ResponseBody
import ApiContract.Proofs.Contract.Scheduling
import ApiContract.Proofs.Contract.Sharing
import ApiContract.Proofs.Contract.Showing
import ApiContract.Proofs.Contract.Skipping
import ApiContract.Proofs.Contract.Suppression
import ApiContract.Proofs.Contract.Termination
import ApiContract.Proofs.Contract.Undeclared
import ApiContract.Proofs.Contract.Uniqueness
import ApiContract.Proofs.Evaluation.Answer
import ApiContract.Proofs.Evaluation.Blame
import ApiContract.Proofs.Evaluation.Meaning
import ApiContract.Proofs.Evaluation.Members
import ApiContract.Proofs.Evaluation.Passing
import ApiContract.Proofs.Evaluation.Renaming
import ApiContract.Proofs.Evaluation.Simulation
import ApiContract.Proofs.Evaluation.Termination
import ApiContract.Proofs.Evaluation.Trace
import ApiContract.Proofs.Evaluation.Verdict
import ApiContract.Proofs.Json.Denotation
import ApiContract.Proofs.Json.Parts
import ApiContract.Proofs.Json.Place
import ApiContract.Proofs.Json.Route
import ApiContract.Proofs.Ordering.Compiling
import ApiContract.Proofs.Ordering.Drawing
import ApiContract.Proofs.Ordering.Filling
import ApiContract.Proofs.Ordering.Hierarchies
import ApiContract.Proofs.Ordering.Nulling
import ApiContract.Proofs.Ordering.Tracking
import ApiContract.Proofs.Ordering.Twins
import ApiContract.Proofs.Ordering.Uniform
import ApiContract.Proofs.Ordering.Visits
import ApiContract.Proofs.Pass.Closure
import ApiContract.Proofs.Pass.Commutation
import ApiContract.Proofs.Pass.Computed
import ApiContract.Proofs.Pass.Documents
import ApiContract.Proofs.Pass.Finish
import ApiContract.Proofs.Pass.Flattening
import ApiContract.Proofs.Pass.Heritage
import ApiContract.Proofs.Pass.Hierarchy
import ApiContract.Proofs.Pass.Inheritance
import ApiContract.Proofs.Pass.Lookup
import ApiContract.Proofs.Pass.Nullability
import ApiContract.Proofs.Pass.Places
import ApiContract.Proofs.Pass.Roots
import ApiContract.Proofs.Pass.Stages
import ApiContract.Proofs.Pass.Wrapping
import ApiContract.Proofs.Related
import ApiContract.Proofs.Schema.Branches
import ApiContract.Proofs.Schema.Given
import ApiContract.Proofs.Schema.Graph
import ApiContract.Proofs.Schema.Growth
import ApiContract.Proofs.Schema.Kinship
import ApiContract.Proofs.Schema.Moves
import ApiContract.Proofs.Schema.Operations
import ApiContract.Proofs.Schema.Parameters
import ApiContract.Proofs.Schema.Reading
import ApiContract.Proofs.Schema.Rendering
import ApiContract.Proofs.Schema.Standing
import ApiContract.Proofs.Schema.Termination
import ApiContract.Proofs.Schema.Visits
import ApiContract.Proofs.Schema.Written
import ApiContract.Proofs.Stateful
import ApiContract.Proofs.Text
import ApiContract.Proofs.Unicode.Case
import ApiContract.Proofs.Url
import ApiContract.Schema.Graph
import ApiContract.Schema.Node
import ApiContract.Schema.Reading
import ApiContract.Schema.Rendering
import ApiContract.Settings
import ApiContract.SingleFlight
import ApiContract.SpecError
import ApiContract.Specification
import ApiContract.Suppression
import ApiContract.Text.Segments
import ApiContract.Unicode.Age
import ApiContract.Unicode.BinaryProperty
import ApiContract.Unicode.ByteSequences
import ApiContract.Unicode.Case
import ApiContract.Unicode.Classes
import ApiContract.Unicode.CodePointSet
import ApiContract.Unicode.CombiningClass
import ApiContract.Unicode.Composition
import ApiContract.Unicode.Direction
import ApiContract.Unicode.GeneralCategory
import ApiContract.Unicode.Joining
import ApiContract.Unicode.Numbers
import ApiContract.Unicode.Property
import ApiContract.Unicode.Script
import ApiContract.Unicode.ScriptExtension
import ApiContract.Unicode.Segmentation
import ApiContract.Url
import ApiContract.Validator.Clause
import ApiContract.Validator.Compilation
import ApiContract.Validator.Evaluation
import ApiContract.ValidatorStore
import ApiContract.Yaml.Cursor
import ApiContract.Yaml.Node
import ApiContract.Yaml.Scalar
import ApiContract.Yaml.Tag
import ApiContract.Yaml.Token
import ApiContract.Yaml.Value
