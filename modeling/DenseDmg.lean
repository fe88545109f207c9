import DenseDmg.Address
import DenseDmg.CommandLine
import DenseDmg.Decimal.Basic
import DenseDmg.Decimal.Binary
import DenseDmg.Decimal.Layout
import DenseDmg.Decimal.Reading
import DenseDmg.Dense
import DenseDmg.Directory
import DenseDmg.Document.Json
import DenseDmg.Document.Reader
import DenseDmg.Document.Scan
import DenseDmg.Engine.Agenda
import DenseDmg.Engine.Simulator
import DenseDmg.Fault
import DenseDmg.Main
import DenseDmg.Measurement.AddressBook
import DenseDmg.Measurement.Experiment
import DenseDmg.Measurement.Handover
import DenseDmg.Measurement.Log
import DenseDmg.Measurement.Pair
import DenseDmg.Measurement.PairTable
import DenseDmg.Measurement.Rehearsal
import DenseDmg.Measurement.Retraining
import DenseDmg.Measurement.Stream
import DenseDmg.Measurement.Summary
import DenseDmg.Measurement.Throughput
import DenseDmg.Network.Basic
import DenseDmg.Network.LinkEvent
import DenseDmg.Network.Tables
import DenseDmg.Proofs.Address.Faithful
import DenseDmg.Proofs.Address.Grammar
import DenseDmg.Proofs.Association.Admission
import DenseDmg.Proofs.Association.Agreement
import DenseDmg.Proofs.Association.Identifiers
import DenseDmg.Proofs.Association.Phases
import DenseDmg.Proofs.Association.Slots
import DenseDmg.Proofs.Association.Training
import DenseDmg.Proofs.Calls
import DenseDmg.Proofs.Decimal.Arithmetic
import DenseDmg.Proofs.Decimal.Digits
import DenseDmg.Proofs.Decimal.Doubles
import DenseDmg.Proofs.Decimal.Finite
import DenseDmg.Proofs.Decimal.Numerals
import DenseDmg.Proofs.Decimal.Rounding
import DenseDmg.Proofs.Decimal.Significant
import DenseDmg.Proofs.Decimal.Widths
import DenseDmg.Proofs.Document.Edits
import DenseDmg.Proofs.Document.FiniteNumbers
import DenseDmg.Proofs.Document.Grammar
import DenseDmg.Proofs.Document.Meanings
import DenseDmg.Proofs.Document.Numbers
import DenseDmg.Proofs.Document.Records
import DenseDmg.Proofs.Document.Rereading
import DenseDmg.Proofs.Document.Skipping
import DenseDmg.Proofs.Document.Texts
import DenseDmg.Proofs.Document.Unambiguous
import DenseDmg.Proofs.Document.Words
import DenseDmg.Proofs.Document.Writing
import DenseDmg.Proofs.Engine.Delivery
import DenseDmg.Proofs.Engine.Driver
import DenseDmg.Proofs.Engine.Ending
import DenseDmg.Proofs.Engine.History
import DenseDmg.Proofs.Engine.Lockstep
import DenseDmg.Proofs.Engine.Order
import DenseDmg.Proofs.Engine.Stopping
import DenseDmg.Proofs.Engine.Timeline
import DenseDmg.Proofs.Measurement.Alternation
import DenseDmg.Proofs.Measurement.Columns
import DenseDmg.Proofs.Measurement.Course
import DenseDmg.Proofs.Measurement.Indexing
import DenseDmg.Proofs.Measurement.Interleavings
import DenseDmg.Proofs.Measurement.Logs
import DenseDmg.Proofs.Measurement.Registrations
import DenseDmg.Proofs.Measurement.Rejections
import DenseDmg.Proofs.Measurement.Retraining
import DenseDmg.Proofs.Measurement.Sampling
import DenseDmg.Proofs.Network.Growth
import DenseDmg.Proofs.Network.Numbering
import DenseDmg.Proofs.Network.Tables
import DenseDmg.Proofs.Radio.Names
import DenseDmg.Proofs.Running.Alike
import DenseDmg.Proofs.Running.BeaconClock
import DenseDmg.Proofs.Running.Faultless
import DenseDmg.Proofs.Running.FirstFault
import DenseDmg.Proofs.Running.LastSample
import DenseDmg.Proofs.Running.Noninterference
import DenseDmg.Proofs.Running.Readings
import DenseDmg.Proofs.Running.RetrainingRounds
import DenseDmg.Proofs.Running.Rows
import DenseDmg.Proofs.Running.Termination
import DenseDmg.Proofs.Running.TrainingLog
import DenseDmg.Proofs.Running.Transcript
import DenseDmg.Proofs.Running.Windows
import DenseDmg.Proofs.Scenario.Accepted
import DenseDmg.Proofs.Scenario.Layouts
import DenseDmg.Proofs.Scenario.Overlay
import DenseDmg.Proofs.Scenario.RoundTrip
import DenseDmg.Proofs.Scene.Belonging
import DenseDmg.Proofs.Scene.Building
import DenseDmg.Proofs.Scene.Flow
import DenseDmg.Proofs.Scene.Layout
import DenseDmg.Proofs.Scene.Reports
import DenseDmg.Proofs.Scene.Wiring
import DenseDmg.Proofs.Text.Trimming
import DenseDmg.Proofs.Traffic.Budget
import DenseDmg.Proofs.Traffic.Packets
import DenseDmg.Proofs.Traffic.Schedule
import DenseDmg.Proofs.Traffic.Senders
import DenseDmg.Proofs.Traffic.Timers
import DenseDmg.Proofs.World.Counters
import DenseDmg.Proofs.World.Deeds
import DenseDmg.Proofs.World.Effects
import DenseDmg.Proofs.World.Setup
import DenseDmg.Radio.Channel
import DenseDmg.Radio.Frame
import DenseDmg.Radio.Phy
import DenseDmg.Scenario.Resolve
import DenseDmg.Scenario.Spec
import DenseDmg.Text.Blank
import DenseDmg.Text.Hex
import DenseDmg.Text.Letters
import DenseDmg.Text.Quoted
import DenseDmg.Text.Shape
import DenseDmg.Time
import DenseDmg.Traffic
import DenseDmg.Traffic.Applications
import DenseDmg.Word
import DenseDmg.World
