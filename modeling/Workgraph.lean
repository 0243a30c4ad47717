import Workgraph.Calendar
import Workgraph.Codegen.Blueprint
import Workgraph.Codegen.Diagram
import Workgraph.Codegen.Listing
import Workgraph.Codegen.Manifest
import Workgraph.Codegen.Program
import Workgraph.Codegen.TargetType
import Workgraph.Codegen.TypeHint
import Workgraph.Codegen.TypeMapper
import Workgraph.Comparison
import Workgraph.Demo
import Workgraph.Fault
import Workgraph.FileTree
import Workgraph.Main
import Workgraph.Number.Basic
import Workgraph.Number.Binary64
import Workgraph.Number.Decimal
import Workgraph.Proofs.Steps
import Workgraph.Sorting.Boundary
import Workgraph.Sorting.Merge
import Workgraph.Sorting.Runs
import Workgraph.Step
import Workgraph.Table
import Workgraph.Text.Blank
import Workgraph.Text.CaseTable
import Workgraph.Text.Casing
import Workgraph.Text.Digit
import Workgraph.Text.Numeral
import Workgraph.Text.Printable
import Workgraph.Text.Quoted
import Workgraph.Text.Search
import Workgraph.Ticket
import Workgraph.Validation
import Workgraph.Value.Arithmetic
import Workgraph.Value.Basic
import Workgraph.Value.Equality
import Workgraph.Value.Ranking
import Workgraph.Value.Render
import Workgraph.Walk
import Workgraph.Workflow
import Workgraph.Workflows.Accumulator
import Workgraph.Workflows.Assistant
import Workgraph.Workflows.Campaign
import Workgraph.Workflows.Chain
import Workgraph.Workflows.Chat
import Workgraph.Workflows.DataQuality
import Workgraph.Workflows.Documents
import Workgraph.Workflows.Experiment
import Workgraph.Workflows.Gateway
import Workgraph.Workflows.Moderation
import Workgraph.Workflows.Orders
import Workgraph.Workflows.Paths
import Workgraph.Workflows.Pipeline
import Workgraph.Workflows.Recommendations
import Workgraph.Workflows.Roster
import Workgraph.Workflows.Support
import Workgraph.Workflows.Threshold
import Workgraph.Proofs.Contracts
import Workgraph.Proofs.Support
import Workgraph.Proofs.Lines
import Workgraph.Proofs.Executor
import Workgraph.Proofs.Transitions
import Workgraph.Proofs.Routing
import Workgraph.Proofs.Annotations
import Workgraph.Proofs.Definitions
import Workgraph.Proofs.Numbers
import Workgraph.Proofs.Orders
import Workgraph.Proofs.Gateway
import Workgraph.Proofs.Comparison
import Workgraph.Proofs.Texts
import Workgraph.Proofs.Complaints
import Workgraph.Proofs.Rounding
import Workgraph.Proofs.Transformation
import Workgraph.Proofs.Totals
import Workgraph.Proofs.DataQuality
import Workgraph.Proofs.Walks
import Workgraph.Proofs.Stock
import Workgraph.Proofs.Documents
import Workgraph.Proofs.Grades
import Workgraph.Proofs.Statuses
import Workgraph.Proofs.Strays
import Workgraph.Proofs.Fallbacks
import Workgraph.Proofs.Exclusions
import Workgraph.Proofs.Recommendations
import Workgraph.Proofs.Moderation
import Workgraph.Proofs.Escalations
import Workgraph.Proofs.Diagrams
import Workgraph.Proofs.Brackets
import Workgraph.Proofs.Codes
import Workgraph.Proofs.Imports
import Workgraph.Proofs.Comments
import Workgraph.Proofs.Depths
import Workgraph.Proofs.Allotment
import Workgraph.Proofs.Products
import Workgraph.Proofs.Coverage
import Workgraph.Proofs.Calendar
import Workgraph.Proofs.Scheduling
import Workgraph.Proofs.Replies
import Workgraph.Proofs.Partition
import Workgraph.Proofs.Ranking
import Workgraph.Proofs.Recipients
import Workgraph.Proofs.Replacement
import Workgraph.Proofs.Headers
import Workgraph.Proofs.Placeholders
import Workgraph.Proofs.Courses
import Workgraph.Proofs.Accumulator
import Workgraph.Proofs.Threshold
import Workgraph.Proofs.HintSizes
import Workgraph.Proofs.DocComments
