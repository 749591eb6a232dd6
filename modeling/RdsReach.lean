import RdsReach.Main
import RdsReach.Probe.Lemmas
import RdsReach.Session
import RdsReach.Proofs.Accounting
import RdsReach.Proofs.Closing
import RdsReach.Proofs.ExitStatus
import RdsReach.Proofs.Composed
import RdsReach.Proofs.Lifecycle
import RdsReach.Proofs.Ownership
import RdsReach.Proofs.Counting
import RdsReach.Proofs.Reporting
import RdsReach.Proofs.Aborting
import RdsReach.Proofs.Flags
import RdsReach.Proofs.Alike
import RdsReach.Proofs.Diagnostics
import RdsReach.Proofs.Route
import RdsReach.Proofs.OneSource
import RdsReach.Proofs.Families
import RdsReach.Proofs.Given
import RdsReach.Proofs.Admission
import RdsReach.Proofs.Release
import RdsReach.Proofs.Turns
import RdsReach.Proofs.Numerals
import RdsReach.Proofs.Settling
import RdsReach.Proofs.Resolving
import RdsReach.Proofs.Refusing
import RdsReach.Proofs.AddressText
import RdsReach.Proofs.SockAddrs
import RdsReach.Proofs.Literals
import RdsReach.Proofs.Equality
import RdsReach.Proofs.Interfaces
import RdsReach.Proofs.AnyOrder
