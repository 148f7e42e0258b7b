import Beacon.Phase
import Beacon.Ramp
import Beacon.Duration.Text
import Beacon.Settings.Reader
import Beacon.Bench
import Beacon.VirtualClock
import Beacon.Main
import Beacon.Board
import Beacon.Host.LineTable
import Beacon.Proofs.Controller.Parts
import Beacon.Proofs.Controller.Period
import Beacon.Proofs.FirstPress
import Beacon.Proofs.NoRunaway
import Beacon.Proofs.Controller.RepeatCalls
import Beacon.Proofs.Station.TimerContract
import Beacon.Proofs.RepeatTimer
import Beacon.Proofs.SpuriousWakes
import Beacon.Proofs.LosingButton
import Beacon.Proofs.ChangePoints
import Beacon.Proofs.EventJournal
import Beacon.Proofs.ResetErasesHistory
import Beacon.Proofs.FatalFailures
import Beacon.Proofs.Controller.Light
import Beacon.Proofs.Station.Beats
import Beacon.Proofs.BlinkTiming
import Beacon.Proofs.LampPattern
import Beacon.Proofs.Station.Sides
import Beacon.Proofs.BatchOrder
import Beacon.Proofs.Json.Grammar
import Beacon.Proofs.Json.Scanning
import Beacon.Proofs.Json.Meaning
import Beacon.Proofs.Settings.Description
import Beacon.Proofs.Settings.Reading
import Beacon.Proofs.Settings.Repeats
import Beacon.Proofs.Json.Printing
import Beacon.Proofs.RoundTrip
import Beacon.Proofs.Json.Exactness
import Beacon.Proofs.Truncation
import Beacon.Proofs.ObjectDocuments
import Beacon.Proofs.ArrayDocuments
import Beacon.Proofs.NumberFields
import Beacon.Proofs.Layers
import Beacon.Proofs.ClampedRamp
import Beacon.Proofs.HoldReachesBound
import Beacon.Proofs.OppositeTaps
import Beacon.Proofs.StepArithmetic
import Beacon.Proofs.PhaseSplit
import Beacon.Proofs.CommandLineSpelling
import Beacon.Proofs.FailedBringUp
import Beacon.Proofs.WiringInPlace
import Beacon.Proofs.Settings.Items
