import DocumentClient.Action
import DocumentClient.Batch
import DocumentClient.Catalog
import DocumentClient.Catalog.Definition
import DocumentClient.Connection
import DocumentClient.Decimal.Binary64
import DocumentClient.Decimal.Shortest
import DocumentClient.Document
import DocumentClient.Duration
import DocumentClient.Endpoint
import DocumentClient.Endpoint.Address
import DocumentClient.Endpoint.Composition
import DocumentClient.Endpoint.Direction
import DocumentClient.Endpoint.DomainName
import DocumentClient.Endpoint.NameMapping
import DocumentClient.Failure
import DocumentClient.Json.Printer
import DocumentClient.Json.Reader
import DocumentClient.Json.Value
import DocumentClient.Keyed
import DocumentClient.Patch
import DocumentClient.Proofs.Batch.AtMostOnce
import DocumentClient.Proofs.Batch.Atomicity
import DocumentClient.Proofs.Batch.Checking
import DocumentClient.Proofs.Batch.Execution
import DocumentClient.Proofs.Batch.Judgement
import DocumentClient.Proofs.Batch.Resubmission
import DocumentClient.Proofs.Connection
import DocumentClient.Proofs.Keyed
import DocumentClient.Proofs.Patch
import DocumentClient.Proofs.Patch.Independence
import DocumentClient.Proofs.Provisioning
import DocumentClient.Proofs.Query.Building
import DocumentClient.Proofs.Query.Compiling
import DocumentClient.Proofs.Query.Conjunctions
import DocumentClient.Proofs.Query.Evaluation
import DocumentClient.Proofs.Query.FieldPath
import DocumentClient.Proofs.Query.FlatReading
import DocumentClient.Proofs.Query.Keywords
import DocumentClient.Proofs.Query.Language
import DocumentClient.Proofs.Query.Parameters
import DocumentClient.Proofs.Query.Pieces
import DocumentClient.Proofs.Query.Sorting
import DocumentClient.Proofs.Query.Spelling
import DocumentClient.Proofs.Query.Unambiguous
import DocumentClient.Proofs.Repository.Absorption
import DocumentClient.Proofs.Repository.Answers
import DocumentClient.Proofs.Repository.Counting
import DocumentClient.Proofs.Repository.FailedPatch
import DocumentClient.Proofs.Repository.FiniteMap
import DocumentClient.Proofs.Repository.Guarded
import DocumentClient.Proofs.Repository.Increment
import DocumentClient.Proofs.Repository.Isolation
import DocumentClient.Proofs.Repository.PageRequests
import DocumentClient.Proofs.Repository.Paging
import DocumentClient.Proofs.Repository.PatchedInPlace
import DocumentClient.Proofs.Repository.Querying
import DocumentClient.Proofs.Repository.Unanswered
import DocumentClient.Proofs.Repository.Writes
import DocumentClient.Proofs.Retry.Arithmetic
import DocumentClient.Proofs.Retry.Attempts
import DocumentClient.Proofs.Retry.Cancellation
import DocumentClient.Proofs.Retry.Policies
import DocumentClient.Proofs.Retry.Schedule
import DocumentClient.Proofs.Retry.Waits
import DocumentClient.Proofs.Settings
import DocumentClient.Proofs.Text.Numeral
import DocumentClient.Proofs.Usage.Account
import DocumentClient.Proofs.Usage.Bookkeeping
import DocumentClient.Proofs.Usage.Commands
import DocumentClient.Provisioning
import DocumentClient.Query.Compile
import DocumentClient.Query.Evaluation
import DocumentClient.Query.Expr
import DocumentClient.Query.Plan
import DocumentClient.Repository
import DocumentClient.Retry.Policy
import DocumentClient.Retry.Run
import DocumentClient.Retry.Script
import DocumentClient.Settings
import DocumentClient.Store
import DocumentClient.Store.Memory
import DocumentClient.Store.Scripted
import DocumentClient.Text.CombiningClass
import DocumentClient.Text.Numeral
import DocumentClient.Text.Property
import DocumentClient.Text.Quoted
import DocumentClient.Text.Split
import DocumentClient.UnitOfWork
