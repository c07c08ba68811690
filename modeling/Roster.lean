import Roster.Main
import Roster.Text.Printable
import Roster.Listing.PageCount
import Roster.Payload.Form
import Roster.Token.Check
import Roster.Web.Server
import Roster.Proofs.Outcome
import Roster.Proofs.Table.Rows
import Roster.Proofs.Service.Call
import Roster.Proofs.User.Calls
import Roster.Proofs.Campaign.Calls
import Roster.Proofs.Listing.PageCount
import Roster.Proofs.Payload.Accepted
import Roster.Proofs.Service.Effect
import Roster.Proofs.Text.Folding
import Roster.Proofs.User.Names
import Roster.Proofs.Json.Numbers
import Roster.Proofs.Json.Reading
import Roster.Proofs.Password
import Roster.Proofs.Service.Pages
import Roster.Proofs.Token.Issued
import Roster.Proofs.User.Session
import Roster.Proofs.Token.Lifetime
import Roster.Proofs.Event.Redelivery
import Roster.Proofs.Event.Wire
import Roster.Proofs.Campaign.Announcements
import Roster.Proofs.Table.Views
import Roster.Proofs.User.Secrecy
import Roster.Proofs.Campaign.Years
import Roster.Proofs.Table.Records
import Roster.Proofs.Token.Accepted
import Roster.Proofs.Web.Guarded
import Roster.Proofs.Table.History
import Roster.Proofs.Event.Delivery
import Roster.Proofs.Listing.FilterText
import Roster.Proofs.Listing.SortText
import Roster.Proofs.User.Registration
import Roster.Proofs.Service.Numbering
import Roster.Proofs.Web.Requests
import Roster.Proofs.Web.Run
import Roster.Proofs.User.Deletion
import Roster.Proofs.Listing.WindowText
import Roster.Proofs.Table.Faults
import Roster.Proofs.Service.Crashes
import Roster.Proofs.Campaign.Crashes
import Roster.Proofs.User.Crashes
import Roster.Proofs.Table.Queries
import Roster.Proofs.Service.Queries
import Roster.Proofs.Event.Conduct
import Roster.Proofs.Listing.FilterWriting
import Roster.Proofs.Table.Operators
import Roster.Proofs.Service.Operators
import Roster.Proofs.Payload.Grammar
import Roster.Proofs.Service.Removal
import Roster.Proofs.Service.Conjunction
import Roster.Proofs.Web.RequestId
import Roster.Proofs.Token.Rejected
import Roster.Proofs.Password.OwnHash
import Roster.Proofs.Password.StoredText
import Roster.Proofs.Listing.FirstValues
