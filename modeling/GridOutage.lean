import GridOutage.Main
import GridOutage.OutageList.Service
import GridOutage.Proofs.Network.Growth
import GridOutage.Proofs.Network.Log
import GridOutage.Proofs.Network.Invariant
import GridOutage.Proofs.Filter.GlobLanguage
import GridOutage.Proofs.Filter.Accepted
import GridOutage.Proofs.Filter.Selection
import GridOutage.Proofs.Binary64.NumberText
import GridOutage.Proofs.Filter.Literal
import GridOutage.Proofs.Filter.Readability
import GridOutage.Proofs.Filter.Faithful
import GridOutage.Proofs.OutageList.Operation
import GridOutage.Proofs.OutageList.Service
import GridOutage.Proofs.OutageList.Calls
import GridOutage.Proofs.Contingency
import GridOutage.Proofs.Network.Lookup
import GridOutage.Proofs.OutageList.ElementExport
import GridOutage.Proofs.OutageList.GroupExport
import GridOutage.Proofs.Network.Order
import GridOutage.Proofs.Network.Acceptance
import GridOutage.Proofs.Network.Alike
import GridOutage.Proofs.Filter.Locality
import GridOutage.Proofs.Network.Reordering
import GridOutage.Proofs.OutageList.Reordering
import GridOutage.Proofs.Document.Written
import GridOutage.Proofs.Document.Record
import GridOutage.Proofs.Document.Elements
import GridOutage.Proofs.Document.JsonNumber
import GridOutage.Proofs.Document.Reread
import GridOutage.Proofs.Document.JsonRoundTrip
import GridOutage.Proofs.Filter.WireForm
import GridOutage.Proofs.Filter.TextForm
import GridOutage.Proofs.Uuid
import GridOutage.Proofs.Calendar
import GridOutage.Proofs.Instant
import GridOutage.Proofs.OutageList.WireForm
import GridOutage.Proofs.OutageList.TextForm
import GridOutage.Proofs.OutageList.Validity
import GridOutage.Proofs.OutageList.Interleaving
import GridOutage.Proofs.Files
import GridOutage.Proofs.CommandLine.Export
import GridOutage.Proofs.Filter.Universality
import GridOutage.Proofs.Filter.Ends
import GridOutage.Proofs.Network.Turning
import GridOutage.Proofs.Filter.Sides
import GridOutage.Proofs.Filter.Criteria
import GridOutage.Proofs.Binary64.Order
import GridOutage.Proofs.Text.Trimmed
import GridOutage.Proofs.Country
import GridOutage.Proofs.Filter.Acceptance
import GridOutage.Proofs.OutageList.Conversion
import GridOutage.Proofs.Filter.Grouping
import GridOutage.Proofs.Text.ByteOrder
import GridOutage.Proofs.OutageList.Listing
import GridOutage.Proofs.Filter.Comparisons
import GridOutage.Proofs.Filter.Quoting
import GridOutage.Proofs.Filter.CountryList
import GridOutage.Proofs.Contingency.WireForm
