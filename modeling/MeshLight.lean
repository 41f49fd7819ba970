import MeshLight.Link.Bench
import MeshLight.Main
import MeshLight.Session.Worker
import MeshLight.Proofs.CommandLine.Simulation
import MeshLight.Proofs.Bulb.Notices
import MeshLight.Proofs.Bulb.Staging
import MeshLight.Proofs.Frame.Keystream
import MeshLight.Proofs.Frame.Separation
import MeshLight.Proofs.Identity.Address
import MeshLight.Proofs.Light.Command
import MeshLight.Proofs.Light.Status
import MeshLight.Proofs.Link.Provenance
import MeshLight.Proofs.Session.Freshness
import MeshLight.Proofs.Session.Gating
import MeshLight.Proofs.Session.KeyAgreement
import MeshLight.Proofs.Session.Relocation
import MeshLight.Proofs.Session.Stray
import MeshLight.Proofs.Session.Adoption
import MeshLight.Proofs.Session.Audit
import MeshLight.Proofs.Session.Course
import MeshLight.Proofs.Session.SinglePairing
import MeshLight.Proofs.Session.Refusal
import MeshLight.Proofs.Session.Gaps
import MeshLight.Proofs.Session.Replies
import MeshLight.Proofs.Session.Ruling
import MeshLight.Proofs.Session.Secret
import MeshLight.Proofs.Session.Teardown
