import WorkloadNet.Dns.Scripted
import WorkloadNet.Main
import WorkloadNet.Nft.Document
import WorkloadNet.Session.Dry
import WorkloadNet.Proofs.Action.Ends
import WorkloadNet.Proofs.Kernel.Operations
import WorkloadNet.Proofs.Kernel.Removal
import WorkloadNet.Proofs.Kernel.Building
import WorkloadNet.Proofs.Kernel.Bridge
import WorkloadNet.Proofs.Network.Phases
import WorkloadNet.Proofs.Network.Wiring
import WorkloadNet.Proofs.Network.Atomicity
import WorkloadNet.Proofs.Kernel.Rollback
import WorkloadNet.Proofs.Kernel.Growth
import WorkloadNet.Proofs.Network.Preservation
import WorkloadNet.Proofs.Firewall.Handles
import WorkloadNet.Proofs.Firewall.Marks
import WorkloadNet.Proofs.Firewall.Reach
import WorkloadNet.Proofs.Firewall.Standard
import WorkloadNet.Proofs.Firewall.Ledger
import WorkloadNet.Proofs.Firewall.Batches
import WorkloadNet.Proofs.Network.Calls
import WorkloadNet.Proofs.Network.Accounts
import WorkloadNet.Proofs.Firewall.Fingerprint
import WorkloadNet.Proofs.Firewall.Journal
import WorkloadNet.Proofs.Network.SharedRules
import WorkloadNet.Proofs.Kernel.Pairs
import WorkloadNet.Proofs.Network.Destruction
import WorkloadNet.Proofs.Network.Leftovers
import WorkloadNet.Proofs.Network.Absences
import WorkloadNet.Proofs.Firewall.Refusals
import WorkloadNet.Proofs.Firewall.Convergence
import WorkloadNet.Proofs.Firewall.Namesakes
import WorkloadNet.Proofs.Firewall.Preparation
import WorkloadNet.Proofs.Network.Refusals
import WorkloadNet.Proofs.Network.Attachments
import WorkloadNet.Proofs.Action.Alike
import WorkloadNet.Proofs.Firewall.Grounds
import WorkloadNet.Proofs.Network.Agreement
import WorkloadNet.Proofs.Nft.Recording
import WorkloadNet.Proofs.Network.Deletions
import WorkloadNet.Proofs.Kernel.Frame
import WorkloadNet.Proofs.Session.Steps
import WorkloadNet.Proofs.Session.Callbacks
import WorkloadNet.Proofs.Action.Leads
import WorkloadNet.Proofs.Kernel.Effects
import WorkloadNet.Proofs.Kernel.Moves
import WorkloadNet.Proofs.Kernel.Carried
import WorkloadNet.Proofs.Session.VethEnds
import WorkloadNet.Proofs.Kernel.Dangling
import WorkloadNet.Proofs.Session.References
import WorkloadNet.Proofs.Dns.Members
import WorkloadNet.Proofs.Dns.Publications
import WorkloadNet.Proofs.Dns.Watching
import WorkloadNet.Proofs.Dns.Failover
import WorkloadNet.Proofs.Firewall.Identity
import WorkloadNet.Proofs.Nft.Identity
import WorkloadNet.Proofs.Dns.Framing
import WorkloadNet.Proofs.Dns.Responses
import WorkloadNet.Proofs.Runs
import WorkloadNet.Proofs.Dns.Endings
import WorkloadNet.Proofs.Route.Changes
import WorkloadNet.Proofs.Text.Decimal
import WorkloadNet.Proofs.Text.Fields
import WorkloadNet.Proofs.Address.Dotted
import WorkloadNet.Proofs.Dns.ResolverLines
import WorkloadNet.Proofs.Dhcp.Arguments
import WorkloadNet.Proofs.Address.Subnets
import WorkloadNet.Proofs.Dhcp.Leases
import WorkloadNet.Proofs.Link.Assignments
import WorkloadNet.Proofs.Text.Hexadecimal
import WorkloadNet.Proofs.Address.Grouped
import WorkloadNet.Proofs.Dns.Corefiles
import WorkloadNet.Proofs.Firewall.Lifetimes
