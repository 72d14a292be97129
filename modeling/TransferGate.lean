import TransferGate.Gate.Handle
import TransferGate.Gate.Crew
import TransferGate.Workers
import TransferGate.Proofs.Observing
import TransferGate.Proofs.Freshness
import TransferGate.Proofs.Requests
import TransferGate.Proofs.StatusHistory
import TransferGate.Proofs.Brackets
import TransferGate.Proofs.Monitoring
import TransferGate.Proofs.Admission
import TransferGate.Proofs.View
import TransferGate.Proofs.Agreement
import TransferGate.Proofs.Separation
import TransferGate.Proofs.Working
import TransferGate.Proofs.Accounts
import TransferGate.Proofs.Shortage
import TransferGate.Proofs.Delivery
import TransferGate.Proofs.Stopping
import TransferGate.Proofs.Reports
import TransferGate.Proofs.RequiredSpace
import TransferGate.Proofs.Staleness
import TransferGate.Proofs.Settling
import TransferGate.Proofs.Farewell
import TransferGate.Proofs.Measuring
import TransferGate.Proofs.Restarting
import TransferGate.Proofs.Replaying
import TransferGate.Proofs.Retrying
import TransferGate.Proofs.Absorbing
import TransferGate.Proofs.Repeating
import TransferGate.Proofs.Causes
import TransferGate.Proofs.Improving
import TransferGate.Proofs.Noticing
import TransferGate.Proofs.Scheduling
