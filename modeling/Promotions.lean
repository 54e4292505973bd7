import Promotions.Json.Reader
import Promotions.Form.Schema
import Promotions.Store.ByHand
import Promotions.Web.Server
import Promotions.Main
import Promotions.Proofs.Numbering
import Promotions.Proofs.Spelling
import Promotions.Proofs.Changes
import Promotions.Proofs.Asking
import Promotions.Proofs.Runs
import Promotions.Proofs.Rows
import Promotions.Proofs.Stock
import Promotions.Proofs.Wanted
import Promotions.Proofs.Claims
import Promotions.Proofs.Entitlements
import Promotions.Proofs.Answers
import Promotions.Proofs.LifeCycle
import Promotions.Proofs.Forms
import Promotions.Proofs.Attendance
import Promotions.Proofs.AtOnce
import Promotions.Proofs.Shapes
import Promotions.Proofs.Showing
import Promotions.Proofs.Presenting
import Promotions.Proofs.Surfaces
import Promotions.Proofs.Ledger
import Promotions.Proofs.Chronicle
import Promotions.Proofs.Reconciliation
import Promotions.Proofs.Snapshots
import Promotions.Proofs.Windows
import Promotions.Proofs.Integrity
import Promotions.Proofs.Separation
import Promotions.Proofs.Renumbering
import Promotions.Proofs.Interference
import Promotions.Proofs.Links
import Promotions.Proofs.InPlace
import Promotions.Proofs.Journaling
import Promotions.Proofs.Approval
import Promotions.Proofs.Admission
import Promotions.Proofs.Rewarded
import Promotions.Proofs.ReadBack
import Promotions.Proofs.Racing
import Promotions.Proofs.Sharing
import Promotions.Proofs.TakingPart
import Promotions.Proofs.Expiry
import Promotions.Proofs.Timetables
import Promotions.Proofs.Scheduling
import Promotions.Proofs.Repeating
import Promotions.Proofs.Activity
import Promotions.Proofs.Patching
import Promotions.Proofs.Rendering
import Promotions.Proofs.Calendar
import Promotions.Proofs.Expressions
import Promotions.Proofs.NextMatch
import Promotions.Proofs.Conditions
import Promotions.Proofs.Statistics
import Promotions.Proofs.Paging
import Promotions.Proofs.OrderedSets
