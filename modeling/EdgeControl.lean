import EdgeControl.Console
import EdgeControl.Kernel.Report
import EdgeControl.Main
import EdgeControl.Memory.Report
import EdgeControl.Proofs.Ensures
import EdgeControl.Proofs.InTurn
import EdgeControl.Proofs.Memory
import EdgeControl.Proofs.Balancer.Snapshot
import EdgeControl.Proofs.Balancer.Transition
import EdgeControl.Proofs.Balancer.Operations
import EdgeControl.Proofs.Balancer.Run
import EdgeControl.Proofs.Balancer.Sound
import EdgeControl.Proofs.Balancer.Rotation
import EdgeControl.Proofs.Balancer.SoundSteps
import EdgeControl.Proofs.Balancer.Mirror
import EdgeControl.Proofs.Balancer.Admission
import EdgeControl.Proofs.Balancer.IdReuse
import EdgeControl.Proofs.Balancer.Consistent
import EdgeControl.Proofs.Balancer.DrainAfterFailure
import EdgeControl.Proofs.Balancer.Removable
import EdgeControl.Proofs.Firewall.Matcher
import EdgeControl.Proofs.Firewall.Operations
import EdgeControl.Proofs.Firewall.Registry
import EdgeControl.Proofs.Firewall.Run
import EdgeControl.Proofs.Firewall.Tables
import EdgeControl.Proofs.Balancer.DeleteAfterFailure
import EdgeControl.Proofs.Balancer.Truthful
import EdgeControl.Proofs.Firewall.Installed
import EdgeControl.Proofs.Flood.Transition
import EdgeControl.Proofs.Flood.Operations
import EdgeControl.Proofs.Flood.Run
import EdgeControl.Proofs.Flood.Monitor
import EdgeControl.Proofs.Flood.Ledger
import EdgeControl.Proofs.Flood.Blocked
import EdgeControl.Proofs.Flood.Installing
import EdgeControl.Proofs.Flood.Reaction
import EdgeControl.Proofs.Flood.Renumbering
import EdgeControl.Proofs.Flood.ReadingOrder
import EdgeControl.Proofs.Firewall.DeleteAfterFailure
import EdgeControl.Proofs.Flow.Pass
import EdgeControl.Proofs.Balancer.Frames
import EdgeControl.Proofs.Balancer.Untouched
import EdgeControl.Proofs.Flow.History
import EdgeControl.Proofs.Balancer.FlowPass
import EdgeControl.Proofs.Balancer.Reconciliation
import EdgeControl.Proofs.Kernel.LongestPrefix
import EdgeControl.Proofs.Firewall.KernelOperations
import EdgeControl.Proofs.Firewall.KernelAgreement
import EdgeControl.Proofs.Firewall.Leftovers
import EdgeControl.Proofs.Firewall.Siblings
import EdgeControl.Proofs.Firewall.Capacity
import EdgeControl.Proofs.Flood.Ownership
import EdgeControl.Proofs.Balancer.Retirement
import EdgeControl.Proofs.Balancer.IdleFlows
import EdgeControl.Proofs.Flood.Limits
import EdgeControl.Proofs.Balancer.Journal
import EdgeControl.Proofs.Balancer.Attachments
import EdgeControl.Proofs.Except
import EdgeControl.Proofs.Within
import EdgeControl.Proofs.Config.Accepted
import EdgeControl.Proofs.Config.Installable
import EdgeControl.Proofs.Firewall.Frames
import EdgeControl.Proofs.Flood.Frames
import EdgeControl.Proofs.Kernel.Tables
import EdgeControl.Proofs.Kernel.Loading
import EdgeControl.Proofs.Agent.Orders
import EdgeControl.Proofs.Agent.Journal
import EdgeControl.Proofs.Agent.Links
import EdgeControl.Proofs.Agent.Filling
import EdgeControl.Proofs.Agent.Release
import EdgeControl.Proofs.Agent.Calls
import EdgeControl.Proofs.Cancellation
import EdgeControl.Proofs.Address.PrefixKey
import EdgeControl.Proofs.Firewall.Ids
import EdgeControl.Proofs.Balancer.InterruptedDrain
import EdgeControl.Proofs.Address.ReadBack
import EdgeControl.Proofs.Json.ReadBack
import EdgeControl.Proofs.Config.ReadBack
import EdgeControl.Proofs.Text.Spelling
import EdgeControl.Proofs.Address.Spelling
import EdgeControl.Proofs.Config.RuleText
import EdgeControl.Proofs.NeighborTable
import EdgeControl.Proofs.Flow.Unreadable
import EdgeControl.Proofs.Flow.WrittenBack
import EdgeControl.Proofs.Firewall.Slots
