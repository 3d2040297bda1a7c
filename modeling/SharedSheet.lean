import SharedSheet.Main
import SharedSheet.Proofs.Service.CachedLog
import SharedSheet.Proofs.Service.Polling
import SharedSheet.Proofs.Service.Restarts
import SharedSheet.Reference.Range
import SharedSheet.Settings
import SharedSheet.Web.Router
import SharedSheet.Worksheet.Window
import SharedSheet.Proofs.Formula.References
import SharedSheet.Proofs.Worksheet.Settled
import SharedSheet.Proofs.Worksheet.Queue
import SharedSheet.Proofs.Worksheet.Edits
import SharedSheet.Proofs.Worksheet.Payloads
import SharedSheet.Proofs.Service.Authority
import SharedSheet.Proofs.Store.Alike
import SharedSheet.Proofs.Service.Failures
import SharedSheet.Proofs.Service.Secrecy
import SharedSheet.Proofs.Web.Router
import SharedSheet.Proofs.Web.Secrecy
import SharedSheet.Proofs.Store.Recovery
import SharedSheet.Proofs.Service.Cursors
import SharedSheet.Proofs.Service.Names
import SharedSheet.Proofs.Service.Proposals
import SharedSheet.Proofs.Service.Checkpoints
import SharedSheet.Proofs.Service.Subscriber
import SharedSheet.Proofs.Formula.Grammar
import SharedSheet.Proofs.Service.Separation
import SharedSheet.Proofs.Formula.Rendering
import SharedSheet.Proofs.Worksheet.Asking
import SharedSheet.Proofs.Worksheet.Copies
import SharedSheet.Proofs.Cache.Delta
import SharedSheet.Proofs.Formula.Tokens
import SharedSheet.Proofs.Store.LogLines
import SharedSheet.Proofs.Formula.Refusals
import SharedSheet.Proofs.Formula.Printing
import SharedSheet.Proofs.Formula.ReadSet
import SharedSheet.Proofs.Payload.Grammar
import SharedSheet.Proofs.Worksheet.Clearing
import SharedSheet.Proofs.Terminal.Session
import SharedSheet.Proofs.Worksheet.Window
import SharedSheet.Proofs.Terminal.Window
import SharedSheet.Proofs.Terminal.Replay
import SharedSheet.Proofs.Reference.Columns
import SharedSheet.Proofs.Formula.Literals
