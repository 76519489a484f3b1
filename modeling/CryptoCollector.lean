import CryptoCollector.Scheduler.Consistency
import CryptoCollector.Scheduler.Conservation
import CryptoCollector.Scheduler.Waiting
import CryptoCollector.Scheduler.Publication
import CryptoCollector.Network.Fencing
import CryptoCollector.Network.Polling
import CryptoCollector.Network.Retry
import CryptoCollector.Network.Assignment
import CryptoCollector.Selection.Ties
import CryptoCollector.Selection.Episodes
import CryptoCollector.Selection.Outbox
import CryptoCollector.Selection.Reachable
import CryptoCollector.Selection.Fixpoint
import CryptoCollector.Selection.Mirror
import CryptoCollector.Storage.Residency
import CryptoCollector.Storage.Service.Objective
import CryptoCollector.Storage.Service.Shutdown
import CryptoCollector.Storage.Service.Startup
import CryptoCollector.Storage.Paths
import CryptoCollector.Storage.Admission
import CryptoCollector.Storage.RoundTrip
import CryptoCollector.Storage.Oldest
import CryptoCollector.Storage.Barrier.AllOrNothing
import CryptoCollector.Storage.Manifest.Readable
import CryptoCollector.Storage.Recovery.Agreement
import CryptoCollector.Storage.Quantiles
import CryptoCollector.Selection.Frozen
import CryptoCollector.Network.Growth
import CryptoCollector.Benchmarks.Buckets
import CryptoCollector.Benchmarks.ResourceEvidence
import CryptoCollector.Benchmarks.FinalAggregate
import CryptoCollector.Benchmarks.TrustedConstruction
import CryptoCollector.Benchmarks.ExactSchedule
import CryptoCollector.Benchmarks.ExchangeSchedules
import CryptoCollector.Benchmarks.EventIds
import CryptoCollector.Benchmarks.TracePartitions
