import PanelLink.BufferCodec
import PanelLink.Main
import PanelLink.Proofs.Segments
import PanelLink.Proofs.Sending
import PanelLink.Proofs.Damage
import PanelLink.Proofs.Buffering
import PanelLink.Proofs.Commanding
import PanelLink.Proofs.Monitoring
import PanelLink.Proofs.Accepting
import PanelLink.Proofs.Results
import PanelLink.Proofs.Relaying
import PanelLink.Proofs.Usage
import PanelLink.Proofs.Detection
import PanelLink.Proofs.Refreshing
import PanelLink.Proofs.Batching
import PanelLink.Proofs.Divisibility
import PanelLink.Proofs.Unescaping
import PanelLink.Proofs.Slots
import PanelLink.Proofs.Conversing
import PanelLink.Proofs.Overflow
import PanelLink.Proofs.Outputs
import PanelLink.Proofs.Toggling
import PanelLink.Proofs.Opening
import PanelLink.Proofs.Memory
import PanelLink.Proofs.Sizing
