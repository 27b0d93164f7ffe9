import QueryPatch.Capture.Pattern
import QueryPatch.Main
import QueryPatch.Session
import QueryPatch.Proofs.Line.Clause
import QueryPatch.Proofs.Line.Grammar
import QueryPatch.Proofs.Text.Cut
import QueryPatch.Proofs.Line.Standard
import QueryPatch.Proofs.Query.Declaration
import QueryPatch.Proofs.Rule.Cardinality
import QueryPatch.Proofs.Patch.Outcome
import QueryPatch.Proofs.Catalog.Population
import QueryPatch.Proofs.Patch.Boundary
import QueryPatch.Proofs.Query.Lines
import QueryPatch.Proofs.Patch.Linewise
import QueryPatch.Proofs.Query.Repatched
import QueryPatch.Proofs.Patch.Idempotence
import QueryPatch.Proofs.Session.Decision
import QueryPatch.Proofs.Session.Reads
import QueryPatch.Proofs.Session.History
import QueryPatch.Proofs.Text.Occurrence
import QueryPatch.Proofs.Query.Roundtrip
import QueryPatch.Proofs.Text.Unbordered
import QueryPatch.Proofs.Query.Blocks
import QueryPatch.Proofs.Patch.Blocks
import QueryPatch.Proofs.Text.Strip
import QueryPatch.Proofs.Capture.Scan
import QueryPatch.Proofs.Capture.Pattern
import QueryPatch.Proofs.Capture.Revision
import QueryPatch.Proofs.Patch.Revision
import QueryPatch.Proofs.CommandLine.Readback
import QueryPatch.Proofs.CommandLine.PassThrough
import QueryPatch.Proofs.Patch.Structure
import QueryPatch.Proofs.CommandLine.Delivery
import QueryPatch.Proofs.CommandLine.AllOrNothing
import QueryPatch.Proofs.CommandLine.Degradation
import QueryPatch.Proofs.Catalog.Names
import QueryPatch.Proofs.CommandLine.Agreement
import QueryPatch.Proofs.Session.Separation
import QueryPatch.Proofs.Line.Predicate
import QueryPatch.Proofs.Line.Classification
import QueryPatch.Proofs.Query.Classification
import QueryPatch.Proofs.Query.Registration
import QueryPatch.Proofs.Catalog.Usage
import QueryPatch.Proofs.Session.Accounts
import QueryPatch.Proofs.Session.Watch
import QueryPatch.Proofs.Session.Ranges
import QueryPatch.Proofs.Capture.Coverage
import QueryPatch.Proofs.Capture.Literal
import QueryPatch.Proofs.Patch.Modification
import QueryPatch.Proofs.CommandLine.Changes
import QueryPatch.Proofs.Query.Arrangement
import QueryPatch.Proofs.Rule.Assignment
import QueryPatch.Proofs.Patch.Repetition
import QueryPatch.Proofs.Patch.Reordering
import QueryPatch.Proofs.CommandLine.Explanation
import QueryPatch.Proofs.Query.ColumnKey
import QueryPatch.Proofs.Fragment.History
