import ControlPlane.Cloud.Edit
import ControlPlane.Cloud.Trial
import ControlPlane.ControlLoop
import ControlPlane.Member
import ControlPlane.Settings.Load
import ControlPlane.Shelf
import ControlPlane.Proofs.Topology.Idempotence
import ControlPlane.Proofs.Cloud.Ownership
import ControlPlane.Proofs.Provider.Confinement
import ControlPlane.Proofs.Topology.Isolation
import ControlPlane.Proofs.Topology.Uniqueness
import ControlPlane.Proofs.Access.Contents
import ControlPlane.Proofs.Access.Drafts
import ControlPlane.Proofs.Topology.Filling
import ControlPlane.Proofs.Topology.Joining
import ControlPlane.Proofs.Topology.Launch
import ControlPlane.Proofs.Topology.Registration
import ControlPlane.Proofs.Topology.Resumption
import ControlPlane.Proofs.Ensure.Chronicle
import ControlPlane.Proofs.Topology.Interruption
import ControlPlane.Proofs.Topology.Undoing
import ControlPlane.Proofs.Status.Turns
import ControlPlane.Proofs.Topology.Care
import ControlPlane.Proofs.Topology.Teardown
import ControlPlane.Proofs.Provider.Tracking
import ControlPlane.Proofs.Topology.Handling
import ControlPlane.Proofs.Topology.Provenance
import ControlPlane.Proofs.Topology.Relocation
import ControlPlane.Proofs.Topology.Holding
import ControlPlane.Proofs.Topology.Namesakes
import ControlPlane.Proofs.Topology.Drift
import ControlPlane.Proofs.Topology.Removal
import ControlPlane.Proofs.Topology.Cancellation
import ControlPlane.Proofs.Ensure.Failing
import ControlPlane.Proofs.Ensure.Repetition
import ControlPlane.Proofs.Topology.Reopening
import ControlPlane.Proofs.Topology.Survivors
import ControlPlane.Proofs.Topology.Attachment
import ControlPlane.Proofs.Topology.Addresses
import ControlPlane.Proofs.Topology.Enlistment
import ControlPlane.Proofs.Access.Repeats
import ControlPlane.Proofs.Topology.Types
import ControlPlane.Proofs.Status.History
import ControlPlane.Proofs.Settings.Precedence
import ControlPlane.Proofs.Declaration.Validity
import ControlPlane.Proofs.Settings.Pins
import ControlPlane.Proofs.Failure.Trail
import ControlPlane.Proofs.Declaration.Zones
