import DocQuery.Adapter.Basic
import DocQuery.Fields.Lemmas
import DocQuery.Query.Json
import DocQuery.Query.Samples
import DocQuery.Store.Memory.Lemmas
import DocQuery.Store.Recording
import DocQuery.Proofs.Filter.Acceptance
import DocQuery.Proofs.Filter.Meaning
import DocQuery.Proofs.Filter.LiteralValue
import DocQuery.Proofs.Adapter.Refinement
import DocQuery.Proofs.Store.FailedWrite
import DocQuery.Proofs.Adapter.Selection
import DocQuery.Proofs.Adapter.SavedKey
import DocQuery.Proofs.Json.Numeral
import DocQuery.Proofs.Json.Text
import DocQuery.Proofs.Number.Magnitude
import DocQuery.Proofs.Value.Json
import DocQuery.Proofs.Query.Json
import DocQuery.Proofs.Adapter.Batch
import DocQuery.Proofs.Adapter.RepeatedBatch
import DocQuery.Proofs.Adapter.BatchOutcome
import DocQuery.Proofs.Adapter.BulkRemoval
import DocQuery.Proofs.Adapter.MergedRecord
import DocQuery.Proofs.Filter.Complement
import DocQuery.Proofs.Adapter.TopRecords
import DocQuery.Proofs.Filter.Sending
import DocQuery.Proofs.Adapter.HandedOut
import DocQuery.Proofs.Store.ReadPaths
import DocQuery.Proofs.Adapter.SavedInstant
import DocQuery.Proofs.Filter.TextComparison
import DocQuery.Proofs.Filter.ErrorPlace
import DocQuery.Proofs.Store.IntegerField
import DocQuery.Proofs.Filter.DateSpelling
import DocQuery.Proofs.Filter.Grouping
import DocQuery.Proofs.Store.Coherence
import DocQuery.Proofs.Store.Accounting
import DocQuery.Proofs.Query.Branching
import DocQuery.Proofs.Model.Naming
import DocQuery.Proofs.Value.Decoding
import DocQuery.Proofs.Filter.NumberWidth
