import RemoteRecorder.Proofs.Client.Numbers
import RemoteRecorder.Proofs.Client.Release
import RemoteRecorder.Proofs.Recording.Abandonment
import RemoteRecorder.Proofs.Recording.Exclusion
import RemoteRecorder.Proofs.Recording.Lifecycle
import RemoteRecorder.Proofs.Recording.Obligation
import RemoteRecorder.Proofs.Recording.Unwinding
import RemoteRecorder.Script.Playback
import RemoteRecorder.Proofs.Options
import RemoteRecorder.Proofs.Table.Index
import RemoteRecorder.Proofs.Table.Encoding
import RemoteRecorder.Proofs.Table.Workbench
import RemoteRecorder.Proofs.Backend.Start
import RemoteRecorder.Proofs.Backend.Agreement
import RemoteRecorder.Proofs.Stream.Reading
import RemoteRecorder.Proofs.Stream.Usage
import RemoteRecorder.Proofs.Stream.Delivery
import RemoteRecorder.Proofs.Stream.Blocks
import RemoteRecorder.Proofs.Client.Streaming
import RemoteRecorder.Proofs.Client.StreamDefaults
import RemoteRecorder.Proofs.Client.Verdict
import RemoteRecorder.Proofs.Options.Rebuilding
import RemoteRecorder.Proofs.Backend.StartReply
import RemoteRecorder.Proofs.Client.Abandonment
import RemoteRecorder.Proofs.Instant.Calendar
import RemoteRecorder.Proofs.Instant.Reading
import RemoteRecorder.Proofs.StreamRequest.Limits
import RemoteRecorder.Proofs.Configuration
import RemoteRecorder.Proofs.ObjectName
import RemoteRecorder.Proofs.Table.Items
import RemoteRecorder.Proofs.Backend.Configuring
import RemoteRecorder.Proofs.Json.Token
import RemoteRecorder.Proofs.Json
