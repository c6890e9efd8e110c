import CallDesk.Backend.Client
import CallDesk.Backend.Exchange
import CallDesk.Backend.Load
import CallDesk.Backend.Reason
import CallDesk.Call
import CallDesk.Campaign
import CallDesk.Command.Log
import CallDesk.Command.Migrate
import CallDesk.Command.Serve
import CallDesk.Command.SocketAddress
import CallDesk.Duration
import CallDesk.Fault
import CallDesk.FileName
import CallDesk.Html.Basic
import CallDesk.Import
import CallDesk.Json.Basic
import CallDesk.Json.Reader
import CallDesk.Json.Record
import CallDesk.Json.Writer
import CallDesk.Main
import CallDesk.Number.Double
import CallDesk.Number.Shortest
import CallDesk.Page.CallDetail
import CallDesk.Page.Calls
import CallDesk.Page.Campaigns
import CallDesk.Page.Contacts
import CallDesk.Page.Document
import CallDesk.Page.Overview
import CallDesk.Page.Parts
import CallDesk.Page.Public
import CallDesk.Pager
import CallDesk.Proofs.Markup.References
import CallDesk.Proofs.Markup.Outline
import CallDesk.Proofs.Markup.Scanner
import CallDesk.Schema.Basic
import CallDesk.Schema.Catalog
import CallDesk.Schema.Database
import CallDesk.Schema.Script
import CallDesk.Schema.Statement
import CallDesk.Session.Callback
import CallDesk.Session.Cookie
import CallDesk.Session.Message
import CallDesk.Settings.Basic
import CallDesk.Settings.Layers
import CallDesk.Settings.Tree
import CallDesk.Site
import CallDesk.Summary
import CallDesk.Text.Base64
import CallDesk.Text.Blank
import CallDesk.Text.Digits
import CallDesk.Text.FormData
import CallDesk.Text.Percent
import CallDesk.Text.Utf8
import CallDesk.Time.Date
import CallDesk.Time.Instant
import CallDesk.Time.Reader
import CallDesk.Toml.Document
import CallDesk.Toml.Scalar
import CallDesk.Toml.Text
import CallDesk.Transcript
import CallDesk.Url.Basic
import CallDesk.Url.Host
import CallDesk.Url.Punycode
import CallDesk.Url.Reader
import CallDesk.Web.Asset.Script
import CallDesk.Web.Asset.Style
import CallDesk.Web.Intake
import CallDesk.Web.MediaType
import CallDesk.Web.Message
import CallDesk.Web.Multipart
import CallDesk.Web.Route
import CallDesk.Web.Service
import CallDesk.Proofs.Page.Shape
import CallDesk.Proofs.Page.Safety
import CallDesk.Proofs.Text.Percent
import CallDesk.Proofs.Backend.Dialog
import CallDesk.Proofs.Text.Split
import CallDesk.Proofs.Text.Words
import CallDesk.Proofs.Url.Credentials
import CallDesk.Proofs.Backend.Client
import CallDesk.Proofs.Web.Route
import CallDesk.Proofs.Web.SignIn
import CallDesk.Proofs.Web.Credentials
import CallDesk.Proofs.Web.Guard
import CallDesk.Proofs.Session.Jar
import CallDesk.Proofs.Session.LifeCycle
import CallDesk.Proofs.Session.Codec
import CallDesk.Proofs.Session.Renewal
import CallDesk.Proofs.Text.FormData
import CallDesk.Proofs.Url.Place
import CallDesk.Proofs.Url.Base
import CallDesk.Proofs.Session.Callback
import CallDesk.Proofs.Json.Reader
import CallDesk.Proofs.Session.Message
import CallDesk.Proofs.Backend.Request
import CallDesk.Proofs.Session.Answer
import CallDesk.Proofs.Text.Digits
import CallDesk.Proofs.Pager
import CallDesk.Proofs.Backend.Listing
import CallDesk.Proofs.Page.Rows
import CallDesk.Proofs.Web.Tour
import CallDesk.Proofs.Json.Scalar
import CallDesk.Proofs.Json.Writer
import CallDesk.Proofs.Json.Record
import CallDesk.Proofs.Time.Reader
import CallDesk.Proofs.Json.Messages
import CallDesk.Proofs.Web.Changes
import CallDesk.Proofs.Markup.Attributes
import CallDesk.Proofs.Web.Links
import CallDesk.Proofs.Url.Segments
import CallDesk.Proofs.Backend.Lookup
import CallDesk.Proofs.Json.Growth
import CallDesk.Proofs.Backend.Parallel
import CallDesk.Proofs.Backend.Failure
import CallDesk.Proofs.Web.Secrecy
import CallDesk.Proofs.Web.Fragments
import CallDesk.Proofs.Markup.Fields
import CallDesk.Proofs.Page.Form
import CallDesk.Proofs.Backend.Creation
import CallDesk.Proofs.Web.Creation
import CallDesk.Proofs.Schema.Watch
import CallDesk.Proofs.Schema.Report
import CallDesk.Proofs.Command.Migrate
import CallDesk.Proofs.Markup.Elements
import CallDesk.Proofs.Page.Tables
import CallDesk.Proofs.Settings.Tree
import CallDesk.Proofs.Settings.File
import CallDesk.Proofs.Settings.Field
import CallDesk.Proofs.Settings.Layers
import CallDesk.Proofs.Multipart.Search
import CallDesk.Proofs.Multipart.Label
import CallDesk.Proofs.Multipart.Header
import CallDesk.Proofs.Multipart.Form
import CallDesk.Proofs.Multipart.Sent
import CallDesk.Proofs.Page.Upload
import CallDesk.Proofs.Backend.Upload
import CallDesk.Proofs.Web.Upload
import CallDesk.Proofs.Backend.Reason
import CallDesk.Proofs.Backend.Operation
import CallDesk.Proofs.Backend.CallDetail
import CallDesk.Proofs.Web.Rejection
import CallDesk.Proofs.Pager.Range
import CallDesk.Proofs.Number.Double
import CallDesk.Proofs.Json.Numeral
import CallDesk.Proofs.Duration
import CallDesk.Proofs.Text.Trimmed
import CallDesk.Proofs.CampaignForm
import CallDesk.Proofs.Transcript
import CallDesk.Proofs.Time.Calendar
import CallDesk.Proofs.Time.Spelling
import CallDesk.Proofs.Json.Respelling
import CallDesk.Proofs.Page.Dates
import CallDesk.Proofs.Json.Sound
import CallDesk.Proofs.Json.Listings
import CallDesk.Proofs.Backend.CampaignListing
import CallDesk.Proofs.Backend.Join
import CallDesk.Proofs.Page.Overview
import CallDesk.Proofs.Web.Overview
import CallDesk.Proofs.FileName
import CallDesk.Proofs.Web.UploadSize
import CallDesk.Proofs.Minutes
import CallDesk.Proofs.Schema.Catalog
