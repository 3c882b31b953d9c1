import TrackerSearch.Config.Load
import TrackerSearch.Json.Read
import TrackerSearch.Main
import TrackerSearch.Proofs.Search.Schedule
import TrackerSearch.Proofs.Search.FanOut
import TrackerSearch.Proofs.Page.Rows
import TrackerSearch.Proofs.Search.Ranking
import TrackerSearch.Proofs.Search.Policy
import TrackerSearch.Proofs.Text.Letter
import TrackerSearch.Proofs.Text.Blank
import TrackerSearch.Proofs.Web.Link
import TrackerSearch.Proofs.Page.Validity
import TrackerSearch.Proofs.Text.Utf8
import TrackerSearch.Proofs.Web.Percent
import TrackerSearch.Proofs.Web.Form
import TrackerSearch.Proofs.Template.Keywords
import TrackerSearch.Proofs.Filter.Chain
import TrackerSearch.Proofs.Page.Isolation
import TrackerSearch.Proofs.Definition.Identifier
import TrackerSearch.Proofs.Definition.Coherence
import TrackerSearch.Proofs.Template.Cutting
import TrackerSearch.Proofs.Text.Replace
import TrackerSearch.Proofs.Template.Language
import TrackerSearch.Proofs.Template.Tokens
import TrackerSearch.Proofs.Template.Meaning
import TrackerSearch.Proofs.Web.Address
import TrackerSearch.Proofs.Fetch.Exchange
import TrackerSearch.Proofs.Fetch.Query
import TrackerSearch.Proofs.Search.Resolution
import TrackerSearch.Proofs.Probe
import TrackerSearch.Proofs.Definition.Lenience
import TrackerSearch.Proofs.Document.Checked
import TrackerSearch.Proofs.Document.Entries
import TrackerSearch.Proofs.Config.Layer
import TrackerSearch.Proofs.Config.Precedence
import TrackerSearch.Proofs.Yaml.Mapping
import TrackerSearch.Proofs.Template.Plain
import TrackerSearch.Proofs.Search.Inputs
import TrackerSearch.Proofs.Search.Places
import TrackerSearch.Proofs.Definition.Reach
import TrackerSearch.Proofs.Search.Winner
import TrackerSearch.Proofs.Json.Table
import TrackerSearch.Proofs.Definition.NormalForm
import TrackerSearch.Proofs.Document.Scalar
import TrackerSearch.Proofs.Document.LongMap
import TrackerSearch.Proofs.Definition.LongForm
import TrackerSearch.Proofs.Number.Decimal
import TrackerSearch.Proofs.Json.RoundTrip
import TrackerSearch.Proofs.Config.Refusal
import TrackerSearch.Proofs.Command.Report
import TrackerSearch.Proofs.Command.Ending
import TrackerSearch.Proofs.Definition.Faulty
import TrackerSearch.Proofs.Command.Program
import TrackerSearch.Proofs.Web.Query
import TrackerSearch.Proofs.Filter.QueryString
import TrackerSearch.Proofs.Regex.Match
import TrackerSearch.Proofs.Regex.Replacement
import TrackerSearch.Proofs.FileTree
import TrackerSearch.Proofs.Definition.Renaming
import TrackerSearch.Proofs.Location
import TrackerSearch.Proofs.Config.Acceptance
import TrackerSearch.Proofs.Config.Dump
import TrackerSearch.Proofs.Time.Iso
import TrackerSearch.Proofs.Page.Releases
import TrackerSearch.Proofs.Page.Details
import TrackerSearch.Proofs.Search.Lookup
import TrackerSearch.Proofs.Filter.Encoding
import TrackerSearch.Proofs.Html.Order
import TrackerSearch.Proofs.Page.Skipping
import TrackerSearch.Proofs.Definition.Overlay
import TrackerSearch.Proofs.Search.LeftOut
import TrackerSearch.Proofs.Template.Refusal
import TrackerSearch.Proofs.Template.Unsupported
import TrackerSearch.Proofs.Template.Quotes
import TrackerSearch.Proofs.Number.Numeral
import TrackerSearch.Proofs.Number.Count
import TrackerSearch.Proofs.Definition.Resource
import TrackerSearch.Proofs.Definition.Peek
import TrackerSearch.Proofs.Html.Removal
import TrackerSearch.Proofs.Page.Removal
