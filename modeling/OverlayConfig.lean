import OverlayConfig.Crd
import OverlayConfig.Main
import OverlayConfig.Manifest.Merge
import OverlayConfig.ShippedTemplates
import OverlayConfig.Proofs.Fields
import OverlayConfig.Proofs.Manifest.Path
import OverlayConfig.Proofs.Manifest.Steady
import OverlayConfig.Proofs.Reconcile.Runs
import OverlayConfig.Proofs.Spec.Defaults
import OverlayConfig.Proofs.Yaml.Frame
import OverlayConfig.Proofs.Yaml.TokenFrame
import OverlayConfig.Proofs.Yaml.Opaque
import OverlayConfig.Proofs.Yaml.Layout
import OverlayConfig.Proofs.Template.Names
import OverlayConfig.Proofs.Template.Outputs
import OverlayConfig.Proofs.Cidr
import OverlayConfig.Proofs.Json.Lines
import OverlayConfig.Proofs.Manifest.Headings
import OverlayConfig.Proofs.Render.Documents
import OverlayConfig.Proofs.Render.Layouts
import OverlayConfig.Proofs.Render.Shipped
import OverlayConfig.Proofs.Render.Embedding
import OverlayConfig.Proofs.Render.Identities
import OverlayConfig.Proofs.Manifest.Checks
import OverlayConfig.Proofs.Reconcile.HostMtu
import OverlayConfig.Proofs.Reconcile.Failures
import OverlayConfig.Proofs.Files
import OverlayConfig.Proofs.Documents
import OverlayConfig.Proofs.Program
import OverlayConfig.Proofs.Render.ConfigMaps
import OverlayConfig.Proofs.Json.Decode
import OverlayConfig.Proofs.Spec.Wire
import OverlayConfig.Proofs.Manifest.Updates
import OverlayConfig.Proofs.Crd
import OverlayConfig.Proofs.Yaml.Order
import OverlayConfig.Proofs.Program.Rerun
import OverlayConfig.Proofs.Spec.Change
import OverlayConfig.Proofs.Manifest.Repeated
import OverlayConfig.Proofs.Manifest.Acceptance
import OverlayConfig.Proofs.Spec.Findings
import OverlayConfig.Proofs.Manifest.Directory
import OverlayConfig.Proofs.Manifest.Images
import OverlayConfig.Proofs.Render.Daemons
import OverlayConfig.Proofs.Render.Images
import OverlayConfig.Proofs.Kubernetes.Deployment
import OverlayConfig.Proofs.Manifest.Pinned
