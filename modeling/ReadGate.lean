import ReadGate.Audit.Journal
import ReadGate.Cancellation.Script
import ReadGate.Failure.Request
import ReadGate.Http.Service
import ReadGate.Main
import ReadGate.Postgres.Tables
import ReadGate.Postgrest.Tables
import ReadGate.Proofs.Audit.Digests
import ReadGate.Proofs.Audit.Lookup
import ReadGate.Proofs.Backend.Classification
import ReadGate.Proofs.Backend.Results
import ReadGate.Proofs.Cancellation.Scopes
import ReadGate.Proofs.Engine.Cancellation
import ReadGate.Proofs.Engine.Counts
import ReadGate.Proofs.Engine.Outcome
import ReadGate.Proofs.Engine.Protocol
import ReadGate.Proofs.Evaluation.Accounts
import ReadGate.Proofs.Evaluation.Cases
import ReadGate.Proofs.Http.Summaries
import ReadGate.Proofs.Memory.Escapes
import ReadGate.Proofs.Memory.Ordering
import ReadGate.Proofs.Postgres.Cleanup
import ReadGate.Proofs.Postgres.ReadBack
import ReadGate.Proofs.Postgres.ReadOnly
import ReadGate.Proofs.Postgres.Settings
import ReadGate.Proofs.Postgrest.Escapes
import ReadGate.Proofs.Postgrest.Names
import ReadGate.Proofs.Postgrest.Selection
import ReadGate.Proofs.Rule.Layout
import ReadGate.Proofs.Rule.Recognition
import ReadGate.Proofs.Rule.Search
import ReadGate.Proofs.Schema.Agreement
import ReadGate.Proofs.Schema.Lookup
import ReadGate.Proofs.Validation.Keywords
import ReadGate.Proofs.Validation.Language
import ReadGate.Proofs.Value.Leaks
