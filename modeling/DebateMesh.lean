import DebateMesh.Bytes
import DebateMesh.Bytes.Hex
import DebateMesh.Text.Utf8
import DebateMesh.Binary64.Decimal
import DebateMesh.Json.Printer
import DebateMesh.Json.Reader
import DebateMesh.Text.Class
import DebateMesh.Text.Word
import DebateMesh.Text.Quoted
import DebateMesh.Message.Json
import DebateMesh.Message.Frame
import DebateMesh.PayloadHash
import DebateMesh.Envelope
import DebateMesh.Classifier
import DebateMesh.Session.Debate
import DebateMesh.Discovery
import DebateMesh.Moderator
import DebateMesh.Datagram
import DebateMesh.LocalModel
import DebateMesh.Daemon.Network
import DebateMesh.SocketAddress
import DebateMesh.Toml.Shape
import DebateMesh.Settings.File
import DebateMesh.Main
import DebateMesh.Proofs.Mesh.Safety
import DebateMesh.Proofs.Completion
import DebateMesh.Proofs.Message.Stream
import DebateMesh.Proofs.Moderator.Run
import DebateMesh.Proofs.Moderator.Accounting
import DebateMesh.Proofs.Moderator.Timers
import DebateMesh.Proofs.Moderator.Invitation
import DebateMesh.Proofs.Guardian.Offers
import DebateMesh.Proofs.GuardianNode.Capacity
import DebateMesh.Proofs.GuardianNode.Layers
import DebateMesh.Proofs.Moderator.Foreign
import DebateMesh.Proofs.Session.Canonical
import DebateMesh.Proofs.Moderator.Search
import DebateMesh.Proofs.ModeratorLoop.Deadline
import DebateMesh.Proofs.Message.Cap
import DebateMesh.Proofs.Message.Loopback
import DebateMesh.Proofs.Moderator.Failure
import DebateMesh.Proofs.GuardianNode.Unsent
import DebateMesh.Proofs.Moderator.Limits
import DebateMesh.Proofs.Session.Transcript
import DebateMesh.Proofs.Moderator.Rebuttal
import DebateMesh.Proofs.Discovery.Optimum
import DebateMesh.Proofs.Discovery.Improvement
import DebateMesh.Proofs.Guardian.Lookalikes
import DebateMesh.Proofs.Message.Truncation
import DebateMesh.Proofs.Message.Variation
import DebateMesh.Proofs.Classifier.Topics
import DebateMesh.Proofs.Envelope.Blobs
import DebateMesh.Proofs.Moderator.Submission
import DebateMesh.Proofs.Settings.Service
import DebateMesh.Proofs.Session.Field
