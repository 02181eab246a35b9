import FleetQuery.Text.CodeRange
import FleetQuery.Text.Blank
import FleetQuery.Text.LowerCase
import FleetQuery.Text.Quoted
import FleetQuery.Text.Order
import FleetQuery.Binary64.Arithmetic
import FleetQuery.Binary64.Text
import FleetQuery.KeyedList
import FleetQuery.Json.Printer
import FleetQuery.Json.Tree
import FleetQuery.Catalog
import FleetQuery.Inventory
import FleetQuery.Question.AggregateCall
import FleetQuery.Question.Clause
import FleetQuery.Question.Description
import FleetQuery.Planning
import FleetQuery.Execution
import FleetQuery.Table.Csv
import FleetQuery.Files.Disk
import FleetQuery.Calendar
import FleetQuery.Engine
import FleetQuery.Main
import FleetQuery.Proofs.Aggregation.Groups
import FleetQuery.Proofs.Aggregation.Partition
import FleetQuery.Proofs.Aggregation.Extremes
import FleetQuery.Proofs.Question.Clauses
import FleetQuery.Proofs.Question.Resolution
import FleetQuery.Proofs.Table.Order
import FleetQuery.Proofs.Table.Columns
import FleetQuery.Proofs.Table.Csv
import FleetQuery.Proofs.Evaluation.Direct
import FleetQuery.Proofs.Evaluation.Plans
import FleetQuery.Proofs.Evaluation.Forms
import FleetQuery.Proofs.Evaluation.Answers
import FleetQuery.Proofs.Evaluation.Sorting
import FleetQuery.Proofs.Evaluation.Excerpts
import FleetQuery.Proofs.Question.Reads
import FleetQuery.Proofs.Question.Phrases
import FleetQuery.Proofs.Question.Boundaries
import FleetQuery.Proofs.Question.Segments
import FleetQuery.Proofs.Question.Labels
import FleetQuery.Proofs.Question.Grammar
import FleetQuery.Proofs.Question.Items
import FleetQuery.Proofs.Question.Comparisons
import FleetQuery.Proofs.Question.Predicates
import FleetQuery.Proofs.Question.Parts
import FleetQuery.Proofs.Question.RoundTrip
import FleetQuery.Proofs.Question.Pauses
import FleetQuery.Proofs.Question.Quotes
import FleetQuery.Proofs.Question.Lists
import FleetQuery.Proofs.Question.Limits
import FleetQuery.Proofs.Recasting.LetterCase
import FleetQuery.Proofs.Registry.Runs
import FleetQuery.Proofs.Config.File
import FleetQuery.Proofs.Evaluation.Scopes
import FleetQuery.Proofs.Files.Disk
import FleetQuery.Proofs.Files.States
import FleetQuery.Proofs.Invocation.Courses
import FleetQuery.Proofs.Invocation.Failures
import FleetQuery.Proofs.Invocation.Reruns
import FleetQuery.Proofs.Marks.Spans
import FleetQuery.Proofs.Marks.Parts
import FleetQuery.Proofs.Marks.Filters
import FleetQuery.Proofs.Marks.Queries
import FleetQuery.Proofs.Marks.Errors
import FleetQuery.Proofs.Inventory.Records
import FleetQuery.Proofs.Inventory.Loads
import FleetQuery.Proofs.Bounds.Scanners
import FleetQuery.Proofs.Bounds.Readers
import FleetQuery.Proofs.Bounds.Clauses
import FleetQuery.Proofs.Bounds.Queries
import FleetQuery.Proofs.Binary64.Ranks
import FleetQuery.Proofs.Binary64.Decimals
import FleetQuery.Proofs.Binary64.Numerals
import FleetQuery.Proofs.Binary64.NumberText
