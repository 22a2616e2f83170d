import RigControl.Action
import RigControl.Bcd
import RigControl.Calibration
import RigControl.Capability.Attenuator
import RigControl.Capability.Descriptor
import RigControl.Capability.Filter
import RigControl.Capability.Line
import RigControl.Capability.Range
import RigControl.Capability.Validation
import RigControl.Civ.Answer
import RigControl.Civ.Bus
import RigControl.Civ.Command
import RigControl.Civ.Field
import RigControl.Civ.Frame
import RigControl.Civ.Mode
import RigControl.Civ.Operations
import RigControl.CommandLine.Arguments
import RigControl.CommandLine.Commands
import RigControl.CommandLine.Description
import RigControl.CommandLine.Failure
import RigControl.CommandLine.Invocation
import RigControl.CommandLine.Layout
import RigControl.CommandLine.Menu
import RigControl.CommandLine.Page
import RigControl.CommandLine.Run
import RigControl.CommandLine.Task
import RigControl.CommandLine.Value
import RigControl.Ekd500.Operations
import RigControl.Error
import RigControl.Flags
import RigControl.Frame.Ascii
import RigControl.Frame.Fixed
import RigControl.Ft840.Command
import RigControl.Ft840.Operations
import RigControl.Ft840.Status
import RigControl.Link.Basic
import RigControl.Link.Engine
import RigControl.Link.Port
import RigControl.Link.Request
import RigControl.Link.Scripted
import RigControl.Link.Timed
import RigControl.Main
import RigControl.Models.Bands
import RigControl.Models.Icom
import RigControl.Models.Kenwood
import RigControl.Models.Rft
import RigControl.Models.Yaesu
import RigControl.Newcat.Answer
import RigControl.Newcat.Command
import RigControl.Newcat.Operations
import RigControl.Proofs.Addressing
import RigControl.Proofs.Addressing.Basic
import RigControl.Proofs.Addressing.Newcat
import RigControl.Proofs.Addressing.Tmd710
import RigControl.Proofs.AsciiFrames
import RigControl.Proofs.AsciiReplies
import RigControl.Proofs.Attempts
import RigControl.Proofs.ByteOrder
import RigControl.Proofs.Calibration
import RigControl.Proofs.CivFrames
import RigControl.Proofs.CivPayloads
import RigControl.Proofs.ClockTexts
import RigControl.Proofs.Contract
import RigControl.Proofs.Conversation
import RigControl.Proofs.Correlation
import RigControl.Proofs.Correlation.Civ
import RigControl.Proofs.Decoding
import RigControl.Proofs.Delimited
import RigControl.Proofs.Delivery
import RigControl.Proofs.Echoes
import RigControl.Proofs.Exchanges
import RigControl.Proofs.Faults
import RigControl.Proofs.Filters
import RigControl.Proofs.FixedFrames
import RigControl.Proofs.Framing
import RigControl.Proofs.Freshness
import RigControl.Proofs.Ft840Numbers
import RigControl.Proofs.Kilohertz
import RigControl.Proofs.MemoryChannels
import RigControl.Proofs.Mirror.Basic
import RigControl.Proofs.Mirror.Civ
import RigControl.Proofs.Mirror.Ft840
import RigControl.Proofs.Mirror.Landing
import RigControl.Proofs.NewcatNumbers
import RigControl.Proofs.NumberCommands
import RigControl.Proofs.Numerals
import RigControl.Proofs.Outcome
import RigControl.Proofs.Pacing
import RigControl.Proofs.PackedDecimal
import RigControl.Proofs.Phases
import RigControl.Proofs.Placeholder
import RigControl.Proofs.Plan
import RigControl.Proofs.Plan.Basic
import RigControl.Proofs.Plan.Civ
import RigControl.Proofs.Plan.Ft840
import RigControl.Proofs.Reach
import RigControl.Proofs.Reading
import RigControl.Proofs.Recorded
import RigControl.Proofs.Refusal
import RigControl.Proofs.Refused
import RigControl.Proofs.Registered
import RigControl.Proofs.Registration
import RigControl.Proofs.Remembered
import RigControl.Proofs.Restored
import RigControl.Proofs.Script
import RigControl.Proofs.Selection
import RigControl.Proofs.Sending
import RigControl.Proofs.Settings.Attenuator
import RigControl.Proofs.Settings.Basic
import RigControl.Proofs.Settings.Bytes
import RigControl.Proofs.Settings.Clock
import RigControl.Proofs.Settings.FilterSlots
import RigControl.Proofs.Settings.Newcat
import RigControl.Proofs.Settings.Preamp
import RigControl.Proofs.Settling
import RigControl.Proofs.Simulated
import RigControl.Proofs.StatusBlocks
import RigControl.Proofs.Steps
import RigControl.Proofs.Traffic
import RigControl.Proofs.Traffic.Civ
import RigControl.Proofs.Traffic.Ekd500
import RigControl.Proofs.Traffic.Ft840
import RigControl.Proofs.Traffic.Newcat
import RigControl.Proofs.Traffic.Tmd710
import RigControl.Proofs.Tuning
import RigControl.Proofs.Tuning.Basic
import RigControl.Proofs.Tuning.Civ
import RigControl.Proofs.Tuning.Ekd500
import RigControl.Proofs.Tuning.Ft840
import RigControl.Proofs.Tuning.Newcat
import RigControl.Proofs.Tuning.Tmd710
import RigControl.Proofs.Writing
import RigControl.Radio.Clock
import RigControl.Radio.ClockText
import RigControl.Radio.Control
import RigControl.Radio.Frequency
import RigControl.Radio.Level
import RigControl.Radio.Mode
import RigControl.Radio.Model
import RigControl.Radio.Vfo
import RigControl.Rig.Backend
import RigControl.Rig.Config
import RigControl.Rig.Connect
import RigControl.Rig.Dialogue
import RigControl.Rig.Operation
import RigControl.Rig.Registry
import RigControl.Rig.Session
import RigControl.Rig.Tracking
import RigControl.Rounding
import RigControl.Single
import RigControl.Single.Arithmetic
import RigControl.Single.Reading
import RigControl.Single.Shortest
import RigControl.Text.CharClass
import RigControl.Text.FixedPoint
import RigControl.Text.Fold
import RigControl.Text.Numeral
import RigControl.Text.Pieces
import RigControl.Text.Quoted
import RigControl.Text.Utf8
import RigControl.Tmd710.Command
import RigControl.Tmd710.Operations
import RigControl.Proofs.DecimalFields
import RigControl.Proofs.DigitPlaces
import RigControl.Proofs.Waiting
