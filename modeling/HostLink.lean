import HostLink.Main
import HostLink.Proofs.Command.Check
import HostLink.Proofs.Host.BlockCodec
import HostLink.Proofs.Host.Operators
import HostLink.Proofs.Link.ConfigText
import HostLink.Proofs.Link.ExportedTypes
import HostLink.Proofs.Store.Slots
import HostLink.Proofs.Wasm.Faithful
import HostLink.Proofs.Wasm.FirstFailure
import HostLink.Proofs.World.Decisions
import HostLink.Proofs.World.History
import HostLink.Proofs.World.Instantiation
import HostLink.Proofs.World.Isolation
import HostLink.Proofs.World.OwnImports
import HostLink.Proofs.World.Passes
import HostLink.Proofs.World.Reports
