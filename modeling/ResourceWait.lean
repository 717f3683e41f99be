import ResourceWait.Status
import ResourceWait.Text.Blank
import ResourceWait.Duration
import ResourceWait.Decimal.Layout
import ResourceWait.Text.Printable
import ResourceWait.Text.Quoted
import ResourceWait.Document.Node
import ResourceWait.Record.Error
import ResourceWait.Record.Codec
import ResourceWait.Record.Basic
import ResourceWait.Json.Quoted
import ResourceWait.Json.Number
import ResourceWait.Json.Reader
import ResourceWait.Json.Writer
import ResourceWait.Resource.Storage
import ResourceWait.Resource.Compute
import ResourceWait.Resource.Probe
import ResourceWait.Wait.Options
import ResourceWait.Source.Basic
import ResourceWait.Routine.Strand
import ResourceWait.Wait.Poll
import ResourceWait.Source.Script
import ResourceWait.Source.Cloud
import ResourceWait.Routine.Interleave
import ResourceWait.Service.BlockStorage
import ResourceWait.Service.Compute
import ResourceWait.Toml.Document
import ResourceWait.Toml.Writer
import ResourceWait.Config.File
import ResourceWait.Proofs.Outcome
import ResourceWait.Proofs.DeletionOutcome
import ResourceWait.Proofs.Truthfulness
import ResourceWait.Proofs.Budget
import ResourceWait.Proofs.Rehearsal
import ResourceWait.Proofs.Cancellation
import ResourceWait.Proofs.Account
import ResourceWait.Proofs.Ending
import ResourceWait.Proofs.Foretold
import ResourceWait.Proofs.Independence
import ResourceWait.Proofs.Quotes
import ResourceWait.Proofs.Values
import ResourceWait.Proofs.Documents
import ResourceWait.Proofs.Records
import ResourceWait.Proofs.WrittenFile
import ResourceWait.Proofs.SavedConfig
import ResourceWait.Proofs.Timekeeping
import ResourceWait.Proofs.Succession
import ResourceWait.Proofs.LetterCase
import ResourceWait.Proofs.Extension
import ResourceWait.Proofs.Termination
import ResourceWait.Proofs.ZeroBudget
import ResourceWait.Proofs.Creation
import ResourceWait.Proofs.FailureList
import ResourceWait.Proofs.Rearrangement
import ResourceWait.Proofs.Draining
import ResourceWait.Proofs.Paths
import ResourceWait.Proofs.MadeDirectories
import ResourceWait.Proofs.FailedSave
import ResourceWait.Proofs.Reading
import ResourceWait.Proofs.PlainFields
import ResourceWait.Proofs.Spellings
import ResourceWait.Proofs.ParsedToml
import ResourceWait.Proofs.Overlay
import ResourceWait.Proofs.Digits
import ResourceWait.Proofs.JsonText
import ResourceWait.Proofs.JsonRoundTrip
import ResourceWait.Proofs.Callers
import ResourceWait.Proofs.Replay
import ResourceWait.Proofs.Logbook
import ResourceWait.Proofs.PauseCount
import ResourceWait.Proofs.CleanupLog
