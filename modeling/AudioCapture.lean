import AudioCapture.InputSource
import AudioCapture.Config
import AudioCapture.Priority
import AudioCapture.Stream
import AudioCapture.Status
import AudioCapture.Diagnostics
import AudioCapture.Json.Number
import AudioCapture.Json.Text
import AudioCapture.Json.Form
import AudioCapture.Notice
import AudioCapture.Queue
import AudioCapture.Session.Run
import AudioCapture.Bench.Session
import AudioCapture.Bench.Queue
import AudioCapture.Ring.Relay
import AudioCapture.Ring.Traffic
import AudioCapture.Capture.Step
import AudioCapture.Source.Scripted
import AudioCapture.Source.Logged
import AudioCapture.Source.Simulated
import AudioCapture.Signal.Monitor
import AudioCapture.Proofs.Ring.Fifo
import AudioCapture.Proofs.Capture.Lockstep
import AudioCapture.Proofs.Session.Refusal
import AudioCapture.Proofs.Session.Release
import AudioCapture.Proofs.Ring.Overlap
import AudioCapture.Proofs.Signal.Parking
import AudioCapture.Proofs.Session.Stopping
import AudioCapture.Proofs.Capture.Stopping
import AudioCapture.Proofs.Capture.Forward
import AudioCapture.Proofs.Capture.Outcomes
import AudioCapture.Proofs.Signal.Word
import AudioCapture.Proofs.Capture.Grants
import AudioCapture.Proofs.Ring.Streaming
import AudioCapture.Proofs.Json.RoundTrip
import AudioCapture.Proofs.Session.Elevation
import AudioCapture.Proofs.Capture.Remainder
import AudioCapture.Proofs.Session.Survival
import AudioCapture.Proofs.Priority.Levels
import AudioCapture.Proofs.Ring.Layout
import AudioCapture.Proofs.Capture.Provenance
import AudioCapture.Proofs.Capture.Lossless
import AudioCapture.Proofs.Session.Replay
import AudioCapture.Proofs.Session.Transport
import AudioCapture.Proofs.Session.Lossless
import AudioCapture.Proofs.Session.Settings
import AudioCapture.Proofs.Signal.Group
import AudioCapture.Proofs.Json.Grammar
import AudioCapture.Proofs.Json.Objects
import AudioCapture.Proofs.Json.Configuration
import AudioCapture.Proofs.Ring.Gauge
import AudioCapture.Proofs.Session.Diagnostics
import AudioCapture.Proofs.Session.Losses
