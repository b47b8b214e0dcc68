import Handin.Main
import Handin.Proofs.Sink
import Handin.Proofs.Relay
import Handin.Proofs.Scene
import Handin.Proofs.Composed
import Handin.Proofs.Settlement
import Handin.Proofs.Gating
import Handin.Proofs.Containment
import Handin.Proofs.Upload
import Handin.Proofs.Numeral
import Handin.Proofs.Loading
import Handin.Proofs.Rehearsal
import Handin.Proofs.Percent
import Handin.Proofs.Segments
import Handin.Proofs.Decodable
import Handin.Proofs.Colons
import Handin.Proofs.Authority
import Handin.Proofs.Contact
import Handin.Proofs.Pace
import Handin.Proofs.Report
import Handin.Proofs.Ending
import Handin.Proofs.Secrecy
import Handin.Proofs.Discovery
import Handin.Proofs.Timeout
import Handin.Proofs.Spelling
import Handin.Proofs.Layers
import Handin.Proofs.Grammar
import Handin.Proofs.Stream
import Handin.Proofs.Stamp
import Handin.Proofs.Preimage
import Handin.Proofs.Arguments
import Handin.Proofs.SecretFile
import Handin.Proofs.AddressText
import Handin.Proofs.Described
