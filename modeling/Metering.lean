import Metering.Concurrent.Workload
import Metering.Identifier.Draw
import Metering.State.Run
import Metering.Telemetry.Host
import Metering.Workspace.Script
import Metering.Proofs.Binding.Table
import Metering.Proofs.Binding.Sharing
import Metering.Proofs.Gate.Steps
import Metering.Proofs.Gate.Calls
import Metering.Proofs.Gate.Indivisible
import Metering.Proofs.State.Failure
import Metering.Proofs.LabelSet
import Metering.Proofs.State.Giving
import Metering.Proofs.Stream.Account
import Metering.Proofs.Stream.Advance
import Metering.Proofs.Stream.Faithful
import Metering.Proofs.Binding.Final
import Metering.Concurrent.Builds
import Metering.Proofs.Meter.Names
import Metering.Proofs.Meter.WriteOnce
import Metering.Proofs.State.Orderly
import Metering.Proofs.Stream.Attribution
import Metering.Proofs.Detour.Renaming
import Metering.Proofs.Detour.Tables
import Metering.Proofs.Detour.Meters
import Metering.Proofs.Detour.States
import Metering.Proofs.Detour.Records
import Metering.Proofs.Detour.Runs
import Metering.Proofs.Registry.Serving
import Metering.Proofs.Registry.Unique
import Metering.Proofs.LabelSet.ByteOrder
import Metering.Proofs.LabelSet.Canonical
import Metering.Proofs.Sink.OneStream
import Metering.Proofs.Apart.Moving
import Metering.Proofs.Apart.Reporting
import Metering.Proofs.Apart.Traffic
import Metering.Proofs.Apart.Steps
import Metering.Proofs.Apart.Runs
import Metering.Concurrent.Installs
import Metering.Telemetry.Activity
import Metering.Proofs.Meter.Answers
import Metering.Proofs.Run.Moments
import Metering.Proofs.Run.Journal
import Metering.Proofs.Run.Reports
import Metering.Proofs.Registry.Descriptors
import Metering.Proofs.Batch.Steps
import Metering.Proofs.Batch.Recorder
import Metering.Proofs.Telemetry.Installs
import Metering.Proofs.Telemetry.Forest
import Metering.Proofs.Telemetry.Hosts
import Metering.Proofs.Telemetry.Spans
import Metering.Proofs.Telemetry.Plans
import Metering.Proofs.LabelSet.Overriding
import Metering.Proofs.Identifier.Source
import Metering.Proofs.Identifier.Encoding
import Metering.Proofs.Identifier.Surveys
import Metering.State.Conduct
import Metering.Proofs.Collection.Callbacks
import Metering.Proofs.Collection.Passes
import Metering.Proofs.Gate.Stripes
import Metering.Proofs.Instrument.Naming
import Metering.Proofs.Instrument.Settings
import Metering.Proofs.Meter.Transitions
import Metering.Proofs.Run.Transitions
import Metering.Proofs.Run.Chronicle
