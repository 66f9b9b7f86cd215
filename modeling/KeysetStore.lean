import KeysetStore.Backend.Trace
import KeysetStore.Codec.Models
import KeysetStore.Json.Record
import KeysetStore.Memory
import KeysetStore.Outage
import KeysetStore.Repository
import KeysetStore.Proofs.ValueOrder
import KeysetStore.Proofs.DocumentOrder
import KeysetStore.Proofs.CompiledOrder
import KeysetStore.Proofs.Conjunction
import KeysetStore.Proofs.KeysetPredicate
import KeysetStore.Proofs.StoredReading
import KeysetStore.Proofs.ListingPage
import KeysetStore.Proofs.PageWalk
import KeysetStore.Proofs.StoreWrites
import KeysetStore.Proofs.InterleavedWalk
import KeysetStore.Proofs.OwnerView
import KeysetStore.Proofs.OwnerIsolation
import KeysetStore.Proofs.Noninterference
import KeysetStore.Proofs.KeyAccess
import KeysetStore.Proofs.CreatedModel
import KeysetStore.Proofs.Registry
import KeysetStore.Proofs.KeysetSoundness
import KeysetStore.Proofs.AnsweredPage
import KeysetStore.Proofs.BoundedWalk
import KeysetStore.Proofs.FurtherPage
import KeysetStore.Proofs.FailedCalls
import KeysetStore.Proofs.FailedWrites
import KeysetStore.Proofs.CallProtocol
import KeysetStore.Proofs.QueryAgreement
import KeysetStore.Proofs.InsertionOrder
import KeysetStore.Proofs.CaseFolding
import KeysetStore.Proofs.LiteralPattern
import KeysetStore.Proofs.FreeTextSearch
import KeysetStore.Proofs.CompiledSelector
import KeysetStore.Proofs.CanonicalOrder
import KeysetStore.Proofs.WellFormedSelector
import KeysetStore.Proofs.IntegerComparison
import KeysetStore.Proofs.UnbrokenWalk
import KeysetStore.Proofs.ReorderedSelector
import KeysetStore.Proofs.KeyText
