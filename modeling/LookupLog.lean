import LookupLog.Text.Quoted
import LookupLog.Text.Utf8
import LookupLog.Decimal.Layout
import LookupLog.Files.Store
import LookupLog.Config.Basic
import LookupLog.Transcript.Record
import LookupLog.Transcript.Lines
import LookupLog.Report.Basic
import LookupLog.Toml.Document
import LookupLog.Config.Reading
import LookupLog.Transcript.Reading
import LookupLog.Run.World
import LookupLog.Run.Execution
import LookupLog.Main
import LookupLog.Proofs.Transcript.RoundTrip
import LookupLog.Proofs.Run.AllOrNothing
import LookupLog.Proofs.Transcript.Order
import LookupLog.Proofs.Transcript.Calls
import LookupLog.Proofs.Run.Configuration
import LookupLog.Proofs.Run.Formats
import LookupLog.Proofs.Transcript.Append
import LookupLog.Proofs.Transcript.LineEndings
import LookupLog.Proofs.Transcript.Account
import LookupLog.Proofs.Run.Frame
import LookupLog.Proofs.Run.Repetition
import LookupLog.Proofs.Binary64.Closest
import LookupLog.Proofs.Summary.MeanOrder
import LookupLog.Proofs.Template.Pieces
import LookupLog.Proofs.Report.Forms
import LookupLog.Proofs.Transcript.Terminators
import LookupLog.Proofs.Report.Series
import LookupLog.Proofs.Run.Series
import LookupLog.Proofs.Summary.FailureRate
import LookupLog.Proofs.Report.Meaning
import LookupLog.Proofs.Report.Lines
import LookupLog.Proofs.Report.Object
import LookupLog.Proofs.Options.AnyOrder
import LookupLog.Proofs.Config.Loading
import LookupLog.Proofs.Config.Writing
