import SheetStore.Text.Blank
import SheetStore.Text.Word
import SheetStore.Text.Pieces
import SheetStore.Text.Numeral
import SheetStore.Text.Quoted
import SheetStore.Files.Tree
import SheetStore.Files.Operations
import SheetStore.Failure
import SheetStore.Condition
import SheetStore.Text.Keyword
import SheetStore.Condition.Parser
import SheetStore.Statement.Parser
import SheetStore.Decimal.Text
import SheetStore.Json.Reader
import SheetStore.Schema.Reader
import SheetStore.Settings.Reader
import SheetStore.Statement.Run
import SheetStore.Session
import SheetStore.Main
import SheetStore.Proofs.Text.Numeral
import SheetStore.Proofs.Sheet.RoundTrip
import SheetStore.Proofs.Sheet.Number
import SheetStore.Proofs.Files.Below
import SheetStore.Proofs.Schema
import SheetStore.Proofs.Table.Contents
import SheetStore.Proofs.Files.Writing
import SheetStore.Proofs.Table.Changes
import SheetStore.Proofs.Query.Rows
import SheetStore.Proofs.Simulation
import SheetStore.Proofs.Steps
import SheetStore.Proofs.Memory
import SheetStore.Proofs.Opening
import SheetStore.Proofs.Condition
import SheetStore.Proofs.Checks
import SheetStore.Proofs.Refinement
import SheetStore.Proofs.Keys
import SheetStore.Proofs.Row
import SheetStore.Proofs.Query.Tuples
import SheetStore.Proofs.Query.Reference
import SheetStore.Proofs.Deletion
import SheetStore.Proofs.Sheet.Appending
import SheetStore.Proofs.Table.Questions
import SheetStore.Proofs.Table.Insertion
import SheetStore.Proofs.Table.Appending
import SheetStore.Proofs.Insertion
import SheetStore.Proofs.Text.Keyword
import SheetStore.Proofs.Condition.NormalForm
import SheetStore.Proofs.Condition.Parser
import SheetStore.Proofs.Statement.Parser
import SheetStore.Proofs.Modes
import SheetStore.Proofs.Durability
import SheetStore.Proofs.Literals
import SheetStore.Proofs.Statement.Rendering
import SheetStore.Proofs.Statement.RoundTrip
import SheetStore.Proofs.Files.Failures
import SheetStore.Proofs.Table.Failures
import SheetStore.Proofs.Refusals
import SheetStore.Proofs.Session
import SheetStore.Proofs.Messages
import SheetStore.Proofs.Query.Answers
import SheetStore.Proofs.Statement.Names
import SheetStore.Proofs.Statement.Failures
import SheetStore.Proofs.Statement.Grammar
import SheetStore.Proofs.Responses
import SheetStore.Proofs.Sheet.Exactness
import SheetStore.Proofs.Statement.Acceptance
import SheetStore.Proofs.Query.Reordering
import SheetStore.Proofs.SheetLimit
import SheetStore.Proofs.Query.Conjunctions
import SheetStore.Proofs.Statement.Identifiers
import SheetStore.Proofs.Files.Locality
import SheetStore.Proofs.Table.Locality
import SheetStore.Proofs.Commutation
import SheetStore.Proofs.Interleaving
import SheetStore.Proofs.Deadlock
import SheetStore.Proofs.Query.TableOrder
import SheetStore.Proofs.Table.Rewriting
import SheetStore.Proofs.Table.Listing
import SheetStore.Proofs.FailedDeletion
import SheetStore.Proofs.LineLimit
import SheetStore.Proofs.Query.RepeatedTables
import SheetStore.Proofs.Sheet.LineEndings
import SheetStore.Proofs.SheetCount
import SheetStore.Proofs.Reopening
import SheetStore.Proofs.Statement.Values
import SheetStore.Proofs.Query.RowMajor
