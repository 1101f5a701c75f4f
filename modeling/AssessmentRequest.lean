import AssessmentRequest.Main
import AssessmentRequest.Scenario
import AssessmentRequest.Wire.Receiver
import AssessmentRequest.Wire.Cursor
import AssessmentRequest.Delivery.Isolated
import AssessmentRequest.Proofs.Record.Line
import AssessmentRequest.Proofs.Request.Validity
import AssessmentRequest.Proofs.Text.Ascii
import AssessmentRequest.Proofs.Text.Decimal
import AssessmentRequest.Proofs.Wire.Line
import AssessmentRequest.Proofs.Wire.Reading
import AssessmentRequest.Proofs.Wire.Grammar
import AssessmentRequest.Proofs.Wire.RoundTrip
import AssessmentRequest.Proofs.Wire.Representation
import AssessmentRequest.Proofs.Wire.Stability
import AssessmentRequest.Proofs.Wire.WrittenForm
import AssessmentRequest.Proofs.Configuration.Request
import AssessmentRequest.Proofs.Wire.Reception
import AssessmentRequest.Proofs.Scenario.Acts
import AssessmentRequest.Proofs.Scenario.Attempts
import AssessmentRequest.Proofs.Scenario.Delivery
import AssessmentRequest.Proofs.Scenario.Run
import AssessmentRequest.Proofs.CommandLine.Spelling
import AssessmentRequest.Proofs.CommandLine.Recorded
import AssessmentRequest.Proofs.CommandLine.Reading
import AssessmentRequest.Proofs.Wire.NormalForm
import AssessmentRequest.Proofs.Toml.Reading
import AssessmentRequest.Proofs.Settings.Schema
import AssessmentRequest.Proofs.Settings.Section
import AssessmentRequest.Proofs.Settings.Document
import AssessmentRequest.Proofs.Settings.ArrayForm
import AssessmentRequest.Proofs.Configuration.Layers
import AssessmentRequest.Proofs.Record.Path
import AssessmentRequest.Proofs.Wire.Continuation
import AssessmentRequest.Proofs.Wire.Attribution
import AssessmentRequest.Proofs.Wire.Terminator
import AssessmentRequest.Proofs.Wire.NextLine
import AssessmentRequest.Proofs.Wire.Progress
import AssessmentRequest.Proofs.Request.FirstFault
import AssessmentRequest.Proofs.Text.Quoted
import AssessmentRequest.Proofs.Request.Message
