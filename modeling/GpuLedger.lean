import GpuLedger.Main
import GpuLedger.Fleet
import GpuLedger.Snapshot.Config
import GpuLedger.Proofs.Conservation
import GpuLedger.Proofs.Restoration
import GpuLedger.Proofs.Exclusion
import GpuLedger.Proofs.Limits
import GpuLedger.Proofs.DeviceOrder
import GpuLedger.Proofs.Chains
import GpuLedger.Proofs.ReleasingAgain
import GpuLedger.Proofs.Questions
import GpuLedger.Proofs.Counters
import GpuLedger.Proofs.Subtraction
import GpuLedger.Proofs.SinglePlacements
import GpuLedger.Proofs.Slices
import GpuLedger.Proofs.Places
import GpuLedger.Proofs.Scores
import GpuLedger.Proofs.Criteria
import GpuLedger.Proofs.RecordedWorkloads
import GpuLedger.Proofs.Aging
import GpuLedger.Proofs.NodeMemory
import GpuLedger.Proofs.Estimates
