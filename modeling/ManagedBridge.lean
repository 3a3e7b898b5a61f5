import ManagedBridge.Config.Writer
import ManagedBridge.InProcess.Session
import ManagedBridge.Jvm.Session
import ManagedBridge.Proofs.Accounts
import ManagedBridge.Proofs.Attaching
import ManagedBridge.Proofs.Attempts
import ManagedBridge.Proofs.Balance
import ManagedBridge.Proofs.Blocks
import ManagedBridge.Proofs.CStrings
import ManagedBridge.Proofs.Composition
import ManagedBridge.Proofs.Confinement
import ManagedBridge.Proofs.Discipline
import ManagedBridge.Proofs.Draining
import ManagedBridge.Proofs.Environment
import ManagedBridge.Proofs.Equivalence
import ManagedBridge.Proofs.Escaping
import ManagedBridge.Proofs.ExceptionDiscipline
import ManagedBridge.Proofs.Forgetting
import ManagedBridge.Proofs.Guards
import ManagedBridge.Proofs.Initialization
import ManagedBridge.Proofs.Installation
import ManagedBridge.Proofs.Interleaving
import ManagedBridge.Proofs.Ledger
import ManagedBridge.Proofs.Lengths
import ManagedBridge.Proofs.Lifecycle
import ManagedBridge.Proofs.Merging
import ManagedBridge.Proofs.Nesting
import ManagedBridge.Proofs.Occupancy
import ManagedBridge.Proofs.Provenance
import ManagedBridge.Proofs.Raising
import ManagedBridge.Proofs.Recoding
import ManagedBridge.Proofs.Recording
import ManagedBridge.Proofs.RoundTrip
import ManagedBridge.Proofs.Settings
import ManagedBridge.Proofs.Severity
import ManagedBridge.Proofs.Summaries
import ManagedBridge.Proofs.Tallying
import ManagedBridge.Proofs.Unreported
