import SensorRelay.Main
import SensorRelay.Proofs.ItemQueue.Contents
import SensorRelay.Proofs.ItemQueue.Fifo
import SensorRelay.Proofs.ItemQueue.Conservation
import SensorRelay.Proofs.ByteQueue.Contents
import SensorRelay.Proofs.ByteQueue.Fifo
import SensorRelay.Proofs.Telemetry.Finds
import SensorRelay.Proofs.Pipeline.Traffic
import SensorRelay.Proofs.Pipeline.Overwrite
import SensorRelay.Proofs.Telemetry.Feed
import SensorRelay.Proofs.Telemetry.Front
import SensorRelay.Proofs.Telemetry.RoundTrip
import SensorRelay.Proofs.Telemetry.Division
import SensorRelay.Proofs.ItemQueue.Poisoning
import SensorRelay.Proofs.Pipeline.Custody
import SensorRelay.Proofs.Pipeline.Lossless
import SensorRelay.Proofs.Consumer
import SensorRelay.Proofs.Settings.Accepted
import SensorRelay.Proofs.Settings.Usable
import SensorRelay.Proofs.Bilateral.Apply
import SensorRelay.Proofs.Frame.Edits
import SensorRelay.Proofs.Bilateral.Window
import SensorRelay.Proofs.Bilateral.Drift
import SensorRelay.Proofs.Machine.Steps
import SensorRelay.Proofs.Machine.ByteQueue
import SensorRelay.Proofs.Machine.ItemQueue
import SensorRelay.Proofs.Checksum.Polynomial
import SensorRelay.Proofs.Checksum.Division
import SensorRelay.Proofs.Checksum.Remainder
import SensorRelay.Proofs.Checksum.Burst
import SensorRelay.Proofs.Telemetry.Damage
import SensorRelay.Proofs.Frame.Rewrite
import SensorRelay.Proofs.Checksum.Flips
import SensorRelay.Proofs.ByteQueue.Buffer
import SensorRelay.Proofs.Wait.Schedule
import SensorRelay.Proofs.Wait.Handoff
import SensorRelay.Proofs.ItemQueue.Reachable
import SensorRelay.Proofs.Handoff
import SensorRelay.Proofs.Probe.Reply
import SensorRelay.Proofs.Probe.Reachable
import SensorRelay.Proofs.Source.Scene
import SensorRelay.Proofs.Settings.Layers
import SensorRelay.Proofs.Ring.Slots
import SensorRelay.Proofs.Machine.Ring
import SensorRelay.Proofs.ItemQueue.Slots
import SensorRelay.Proofs.Source.Ramp
