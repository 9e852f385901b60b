import ProxySync.Main
import ProxySync.Session.Frontends
import ProxySync.Simulation.Controllers
import ProxySync.Wire.Same
import ProxySync.Kube.Shape
import ProxySync.Kube.Shape.Container
import ProxySync.Kube.Shape.Pod
import ProxySync.Kube.Shape.Service
import ProxySync.Proofs.Session.Ownership
import ProxySync.Proofs.Session.Atomicity
import ProxySync.Proofs.Session.Convergence
import ProxySync.Proofs.Pass.Gating
import ProxySync.Proofs.Pass.Isolation
import ProxySync.Proofs.Pass.Orphans
import ProxySync.Proofs.Pass.Quiescence
import ProxySync.Proofs.Session.Operations
import ProxySync.Proofs.Session.StateMachine
import ProxySync.Proofs.Session.Scoping
import ProxySync.Proofs.DataPlane.Keeper
import ProxySync.Proofs.Session.Locking
import ProxySync.Proofs.Session.FrontendParts
import ProxySync.Proofs.Pass.Repeating
import ProxySync.Proofs.Pass.Retriggering
import ProxySync.Proofs.Wire.RoundTrip
import ProxySync.Proofs.DataPlane.Naming
import ProxySync.Proofs.Resolution.Members
import ProxySync.Proofs.Session.Difference
import ProxySync.Proofs.Session.Removal
import ProxySync.Proofs.Resource.WellFormed
import ProxySync.Proofs.Resolution.Ports
import ProxySync.Proofs.Session.Attribution
import ProxySync.Proofs.Index.Handling
import ProxySync.Proofs.Resource.Draft
import ProxySync.Proofs.Session.Switching
import ProxySync.Proofs.Session.ServerSync
import ProxySync.Proofs.DataPlane.Version
import ProxySync.Proofs.Session.Counting
import ProxySync.Proofs.DataPlane.Contact
import ProxySync.Proofs.Pass.Sharing
