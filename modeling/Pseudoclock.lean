import Pseudoclock.Main
import Pseudoclock.Proofs.Device.RoundTrip
import Pseudoclock.Proofs.ClockLine.Shortest
import Pseudoclock.Proofs.Replay.Stretches
import Pseudoclock.Proofs.Replay.Triggers
import Pseudoclock.Proofs.Replay.Splitting
import Pseudoclock.Proofs.Binary64.Place
import Pseudoclock.Proofs.Binary64.Arithmetic
import Pseudoclock.Proofs.Replay.Chronology
import Pseudoclock.Proofs.OutputBank.Distinction
import Pseudoclock.Proofs.OutputBank.Grammar
import Pseudoclock.Proofs.Device.Completeness
import Pseudoclock.Proofs.Replay.SelfTimed
import Pseudoclock.Proofs.Replay.Alike
import Pseudoclock.Proofs.OutputBank.StrayWords
import Pseudoclock.Proofs.Device.Delivery
import Pseudoclock.Proofs.Format.Timeline
import Pseudoclock.Proofs.CommandLine.Effects
import Pseudoclock.Proofs.Layout.Planes
import Pseudoclock.Proofs.Trace.Order
import Pseudoclock.Proofs.Timeline.Registers
import Pseudoclock.Proofs.Table.Correspondence
import Pseudoclock.Proofs.Device.Records
import Pseudoclock.Proofs.Session
