import Fat32.Console.Command
import Fat32.Device.Memory
import Fat32.Device.Simulated
import Fat32.Proofs.Confinement
import Fat32.Proofs.Console.Cat
import Fat32.Proofs.Device.Memory
import Fat32.Proofs.Directory.Encoding
import Fat32.Proofs.Directory.Text
import Fat32.Proofs.Handle.Bindings
import Fat32.Proofs.Handle.Cost
import Fat32.Proofs.Handle.Mounts
import Fat32.Proofs.Handle.Readers
import Fat32.Proofs.Handle.Tracking
import Fat32.Proofs.Laziness
import Fat32.Proofs.Name.Gathering
import Fat32.Proofs.Path.Case
import Fat32.Proofs.Path.Cursor
import Fat32.Proofs.Path.Stray
import Fat32.Proofs.Volume.Links
import Fat32.Proofs.Volume.Usable
import Fat32.Proofs.Volume.Usage
import Fat32.Proofs.Warnings
