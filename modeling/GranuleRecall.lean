import GranuleRecall.Main
import GranuleRecall.Run.Rehearsal
import GranuleRecall.Service.Archive
import GranuleRecall.Proofs.Course.Sending
import GranuleRecall.Proofs.Course.Pass
import GranuleRecall.Proofs.Course.Restores
import GranuleRecall.Proofs.Course.Publications
import GranuleRecall.Proofs.Course.Waiting
import GranuleRecall.Proofs.Course.Failures
import GranuleRecall.Proofs.QueueAgreement
import GranuleRecall.Proofs.Course.Requests
import GranuleRecall.Proofs.PassStructure
import GranuleRecall.Proofs.Course.Answers
import GranuleRecall.Proofs.Course.Replies
import GranuleRecall.Proofs.QueueIndependence
import GranuleRecall.Proofs.Course.Probes
import GranuleRecall.Proofs.Course.Steps
import GranuleRecall.Proofs.FirstFailure
import GranuleRecall.Proofs.WrittenForm.Digits
import GranuleRecall.Proofs.WrittenForm.Instants
import GranuleRecall.Proofs.WrittenForm.Records
import GranuleRecall.Proofs.MessageIdentity
import GranuleRecall.Proofs.Course.Posts
import GranuleRecall.Proofs.SharedIds
import GranuleRecall.Proofs.GatedRestores
import GranuleRecall.Proofs.Course.Fates
import GranuleRecall.Proofs.FileIndependence
import GranuleRecall.Proofs.Course.Exchanges
import GranuleRecall.Proofs.BudgetComposition
import GranuleRecall.Proofs.Documents.Grammar
import GranuleRecall.Proofs.Documents.Numbers
import GranuleRecall.Proofs.Documents.Texts
import GranuleRecall.Proofs.Documents.Layout
import GranuleRecall.Proofs.Documents.Written
import GranuleRecall.Proofs.Documents.Readers
import GranuleRecall.Proofs.Documents.Records
import GranuleRecall.Proofs.Documents.Requests
import GranuleRecall.Proofs.Documents.Slots
import GranuleRecall.Proofs.Documents.Reordering
import GranuleRecall.Proofs.Documents.Edits
import GranuleRecall.Proofs.Documents.EventEdits
import GranuleRecall.Proofs.Documents.Strictness
import GranuleRecall.Proofs.EventMeaning
import GranuleRecall.Proofs.Documents.Printing
import GranuleRecall.Proofs.Course.Reports
import GranuleRecall.Proofs.WrittenForm.Reals
import GranuleRecall.Proofs.Documents.Reals
import GranuleRecall.Proofs.Documents.Reread
import GranuleRecall.Proofs.Documents.Output
import GranuleRecall.Proofs.Documents.Reports
import GranuleRecall.Proofs.RoundTrip
import GranuleRecall.Proofs.Documents.Meaning
import GranuleRecall.Proofs.UnknownMembers
import GranuleRecall.Proofs.RequestFrame
import GranuleRecall.Proofs.Course.Attempts
import GranuleRecall.Proofs.FailureReports
import GranuleRecall.Proofs.Course.Moments
import GranuleRecall.Proofs.Course.History
import GranuleRecall.Proofs.RequestHistory
import GranuleRecall.Proofs.PassCount
import GranuleRecall.Proofs.BoundedDelivery
import GranuleRecall.Proofs.Course.Tasks
import GranuleRecall.Proofs.JobTimeline
import GranuleRecall.Proofs.Documents.FileBodies
import GranuleRecall.Proofs.FileMessages
import GranuleRecall.Proofs.Course.Completion
import GranuleRecall.Proofs.Documents.Lines
import GranuleRecall.Proofs.ExitStatus
import GranuleRecall.Proofs.WrittenForm.Numerals
import GranuleRecall.Proofs.SettingsResolution
import GranuleRecall.Proofs.Course.Deeds
import GranuleRecall.Proofs.Course.Bookkeeping
import GranuleRecall.Proofs.Course.CallRecords
import GranuleRecall.Proofs.RunLedger
import GranuleRecall.Proofs.ElapsedTime
