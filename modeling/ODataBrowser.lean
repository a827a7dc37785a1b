import ODataBrowser.Access
import ODataBrowser.Calendar.Date
import ODataBrowser.Calendar.Epoch
import ODataBrowser.Calendar.IsoText
import ODataBrowser.Calendar.LegacyDate
import ODataBrowser.Calendar.Timestamp
import ODataBrowser.CellText
import ODataBrowser.Column.Type
import ODataBrowser.Column.TypeMap
import ODataBrowser.Connection
import ODataBrowser.Counting
import ODataBrowser.Envelope
import ODataBrowser.Fault
import ODataBrowser.Gateway.Answer
import ODataBrowser.Gateway.Api
import ODataBrowser.Gateway.Basic
import ODataBrowser.Gateway.BodyText
import ODataBrowser.Gateway.FormReader
import ODataBrowser.Gateway.Framework
import ODataBrowser.Gateway.Host
import ODataBrowser.Gateway.IntegerText
import ODataBrowser.Gateway.Objection
import ODataBrowser.Gateway.PageForm
import ODataBrowser.Gateway.Recent
import ODataBrowser.Gateway.Request
import ODataBrowser.Gateway.Server
import ODataBrowser.Gateway.Standard
import ODataBrowser.Gateway.Target
import ODataBrowser.Json.Reader
import ODataBrowser.Json.Text
import ODataBrowser.Json.Writer
import ODataBrowser.Main
import ODataBrowser.Number.Binary64
import ODataBrowser.Number.Decimal
import ODataBrowser.Number.Exact
import ODataBrowser.Number.Numeral
import ODataBrowser.Number.Shortest
import ODataBrowser.Pager.Basic
import ODataBrowser.Pager.Load
import ODataBrowser.Query.Component
import ODataBrowser.Query.Filter
import ODataBrowser.Query.Literal
import ODataBrowser.Query.Sort
import ODataBrowser.Query.Table
import ODataBrowser.Query.Url
import ODataBrowser.Resource.Basic
import ODataBrowser.Resource.Metadata
import ODataBrowser.Resource.Ordering
import ODataBrowser.Resource.Search
import ODataBrowser.Resource.ServiceDocument
import ODataBrowser.Service.Discovery
import ODataBrowser.Service.ErrorMessage
import ODataBrowser.Service.Exchange
import ODataBrowser.Service.Page
import ODataBrowser.Service.Session
import ODataBrowser.Text.Blank
import ODataBrowser.Text.CodeTable
import ODataBrowser.Text.Decomposition
import ODataBrowser.Text.DecompositionTable
import ODataBrowser.Text.Digit
import ODataBrowser.Text.Folding
import ODataBrowser.Text.Lowercase
import ODataBrowser.Text.Printable
import ODataBrowser.Text.Quoted
import ODataBrowser.Text.Search
import ODataBrowser.Text.Utf16
import ODataBrowser.Text.Utf8
import ODataBrowser.Value.Basic
import ODataBrowser.Value.Conversion
import ODataBrowser.Value.Display
import ODataBrowser.Value.Equality
import ODataBrowser.Value.Order
import ODataBrowser.Xml.Character
import ODataBrowser.Xml.Declarations
import ODataBrowser.Xml.Element
import ODataBrowser.Xml.Encoding
import ODataBrowser.Xml.Growth
import ODataBrowser.Xml.Reader
import ODataBrowser.Xml.Reference
import ODataBrowser.Proofs.Query.Url
import ODataBrowser.Proofs.Pager.Attempts
import ODataBrowser.Proofs.Pager.Loading
import ODataBrowser.Proofs.Pager.Requests
import ODataBrowser.Proofs.Query.Number
import ODataBrowser.Proofs.Column.Observing
import ODataBrowser.Proofs.Column.Growth
import ODataBrowser.Proofs.Query.Filter
import ODataBrowser.Proofs.Query.Typing
import ODataBrowser.Proofs.Pager.Run
import ODataBrowser.Proofs.Pager.SameFilter
import ODataBrowser.Proofs.Pager.Total
import ODataBrowser.Proofs.Service.Answer
import ODataBrowser.Proofs.Pager.Failure
import ODataBrowser.Proofs.Pager.Settling
import ODataBrowser.Proofs.Pager.Switch
import ODataBrowser.Proofs.Number.Numeral
import ODataBrowser.Proofs.Query.Options
import ODataBrowser.Proofs.Service.Paging
import ODataBrowser.Proofs.Pager.Browse
import ODataBrowser.Proofs.Text.Lowercase
import ODataBrowser.Proofs.Text.Sigma
import ODataBrowser.Proofs.Pager.Negotiation
import ODataBrowser.Proofs.Column.Batches
import ODataBrowser.Proofs.Pager.ColumnTypes
import ODataBrowser.Proofs.Query.Component
import ODataBrowser.Proofs.Query.RoundTrip
import ODataBrowser.Proofs.Service.Discovery
import ODataBrowser.Proofs.Number.Order
import ODataBrowser.Proofs.Gateway.Recent
import ODataBrowser.Proofs.Gateway.Pagers
import ODataBrowser.Proofs.Gateway.Isolation
import ODataBrowser.Proofs.Json.Refusal
import ODataBrowser.Proofs.Pager.Likeness
import ODataBrowser.Proofs.Service.Message
import ODataBrowser.Proofs.Service.Dialect
import ODataBrowser.Proofs.Pager.LastAnswer
import ODataBrowser.Proofs.Pager.ErrorDialects
import ODataBrowser.Proofs.Pager.PageDialects
import ODataBrowser.Proofs.Json.Text
import ODataBrowser.Proofs.Query.Address
import ODataBrowser.Proofs.Gateway.Framework
import ODataBrowser.Proofs.Gateway.Keys
import ODataBrowser.Proofs.Gateway.PageSize
import ODataBrowser.Proofs.Service.Location
import ODataBrowser.Proofs.Value.Text
import ODataBrowser.Proofs.Calendar.Range
import ODataBrowser.Proofs.Number.Decimal
import ODataBrowser.Proofs.Query.Expressible
import ODataBrowser.Proofs.Query.Compilation
import ODataBrowser.Proofs.Pager.Estimate
import ODataBrowser.Proofs.Service.Decoding
import ODataBrowser.Proofs.Query.Integer
import ODataBrowser.Proofs.Query.Instant
import ODataBrowser.Proofs.Number.Quotient
import ODataBrowser.Proofs.Calendar.Epoch
import ODataBrowser.Proofs.Calendar.IsoPrefix
import ODataBrowser.Proofs.Calendar.LegacyDate
import ODataBrowser.Proofs.Calendar.Written
import ODataBrowser.Proofs.Query.DateColumn
import ODataBrowser.Proofs.Query.LegacyDate
import ODataBrowser.Proofs.Query.ReadBack
import ODataBrowser.Proofs.Resource.Metadata
import ODataBrowser.Proofs.Resource.Names
import ODataBrowser.Proofs.Resource.Ordering
import ODataBrowser.Proofs.Json.Bounds
import ODataBrowser.Proofs.Value.Cell
import ODataBrowser.Proofs.Query.TextLiteral
import ODataBrowser.Proofs.Query.SortOrder
import ODataBrowser.Proofs.Service.Credentials
import ODataBrowser.Proofs.Gateway.Cache
import ODataBrowser.Proofs.Resource.Search
import ODataBrowser.Proofs.Service.Address
