import GraphDriver.Client.Databases
import GraphDriver.Client.Transaction
import GraphDriver.Cluster.Session
import GraphDriver.Message.Catalogue
import GraphDriver.Simulation.Multiplexing
import GraphDriver.Simulation.Stage
import GraphDriver.Wire.Inbound
import GraphDriver.Wire.Outbound
import GraphDriver.Proofs.Run
import GraphDriver.Proofs.Stream.Demultiplexing
import GraphDriver.Proofs.Stream.Dispatchers
import GraphDriver.Proofs.Stream.Registry
import GraphDriver.Proofs.Stream.Batching
import GraphDriver.Proofs.Stream.Conversations
import GraphDriver.Proofs.Stream.Effects
import GraphDriver.Proofs.Stream.Lateness
import GraphDriver.Proofs.Stream.Numbering
import GraphDriver.Proofs.Stream.Teardown
import GraphDriver.Proofs.Stream.Pagination
import GraphDriver.Proofs.Pack.RoundTrip
import GraphDriver.Proofs.Pack.Spelling
import GraphDriver.Proofs.Schema.RoundTrip
import GraphDriver.Proofs.Schema.Compatibility
import GraphDriver.Proofs.Schema.Messages
import GraphDriver.Proofs.Wire.Reassembly
import GraphDriver.Proofs.Wire.Delivery
import GraphDriver.Proofs.Wire.Writing
import GraphDriver.Proofs.Wire.Grouping
import GraphDriver.Proofs.Client.Runs
import GraphDriver.Proofs.Cluster.Discovery
import GraphDriver.Proofs.Cluster.Following
import GraphDriver.Proofs.Cluster.Signals
import GraphDriver.Proofs.Stream.Ordering
import GraphDriver.Proofs.Client.Talk
import GraphDriver.Proofs.Client.Interleaving
import GraphDriver.Proofs.Cluster.Conduct
import GraphDriver.Proofs.Cluster.Holders
import GraphDriver.Proofs.Cluster.Fates
import GraphDriver.Proofs.Cluster.Traffic
import GraphDriver.Proofs.Cluster.Stranding
import GraphDriver.Proofs.Cluster.Finality
import GraphDriver.Proofs.Stream.Evolution
import GraphDriver.Proofs.Client.Evolution
import GraphDriver.Proofs.Client.Reliance
import GraphDriver.Proofs.Client.Upkeep
import GraphDriver.Proofs.Cluster.Upkeep
import GraphDriver.Proofs.Cluster.Affairs
import GraphDriver.Proofs.Cluster.Leaks
import GraphDriver.Proofs.Cluster.Silence
import GraphDriver.Proofs.Stream.Timeliness
import GraphDriver.Proofs.Stream.Heeding
import GraphDriver.Proofs.Stream.Iteration
import GraphDriver.Proofs.Stream.Flattening
import GraphDriver.Proofs.Cluster.Reading
import GraphDriver.Proofs.Wire.Truncation
import GraphDriver.Proofs.Stream.Pending
import GraphDriver.Proofs.Stream.Wrapping
import GraphDriver.Proofs.Cluster.Reopening
import GraphDriver.Proofs.Client.Lifecycle
import GraphDriver.Proofs.Client.Endings
