import MessageBroker.Broker
import MessageBroker.Config.Startup
import MessageBroker.Demonstration
import MessageBroker.Environment.File
import MessageBroker.Main
import MessageBroker.Message.Codec
import MessageBroker.Proofs.Bookkeeping
import MessageBroker.Proofs.Conservation
import MessageBroker.Proofs.Deferral
import MessageBroker.Proofs.Erasure
import MessageBroker.Proofs.Isolation
import MessageBroker.Proofs.Rollback
import MessageBroker.Proofs.Traffic
import MessageBroker.Proofs.Order
import MessageBroker.Proofs.Publication
import MessageBroker.Proofs.Refinement
import MessageBroker.Proofs.Refusal
import MessageBroker.Proofs.Numbering
import MessageBroker.Proofs.Redelivery
import MessageBroker.Proofs.Separation
import MessageBroker.Proofs.Recovery
import MessageBroker.Proofs.Consumers
import MessageBroker.Proofs.Deletion
import MessageBroker.Proofs.Scripts
import MessageBroker.Proofs.Handles
import MessageBroker.Proofs.Release
import MessageBroker.Proofs.Commit
import MessageBroker.Proofs.Return
import MessageBroker.Proofs.Acknowledgement
import MessageBroker.Proofs.Growth
import MessageBroker.Proofs.Worker
import MessageBroker.Proofs.Selection
import MessageBroker.Proofs.Startup
import MessageBroker.Proofs.Settings
import MessageBroker.Proofs.Storage
import MessageBroker.Proofs.Ledger
