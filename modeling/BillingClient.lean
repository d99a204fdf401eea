import BillingClient.Calendar.Date
import BillingClient.Calendar.Instant
import BillingClient.Call.Account
import BillingClient.Call.Basic
import BillingClient.Call.Catalog
import BillingClient.Call.Entitlement
import BillingClient.Call.Invoice
import BillingClient.Call.Label
import BillingClient.Call.Operation
import BillingClient.Call.Payment
import BillingClient.Call.PaymentMethod
import BillingClient.Call.Server
import BillingClient.Call.Tenant
import BillingClient.Client.Basic
import BillingClient.Client.Config
import BillingClient.Client.Error
import BillingClient.Client.Options
import BillingClient.Client.Page
import BillingClient.Client.Query
import BillingClient.Client.Reply
import BillingClient.Client.Request
import BillingClient.Domain.Account
import BillingClient.Domain.Audit
import BillingClient.Domain.Catalog
import BillingClient.Domain.Entitlement
import BillingClient.Domain.Fault
import BillingClient.Domain.Gateway
import BillingClient.Domain.Invoice
import BillingClient.Domain.InvoicePayment
import BillingClient.Domain.Label
import BillingClient.Domain.Payment
import BillingClient.Domain.PaymentMethod
import BillingClient.Domain.Price
import BillingClient.Domain.Registry
import BillingClient.Domain.Tenant
import BillingClient.Domain.Usage
import BillingClient.Http.Dialogue
import BillingClient.Http.Draft
import BillingClient.Http.Header
import BillingClient.Http.Message
import BillingClient.Http.Method
import BillingClient.Http.Redirect
import BillingClient.Http.Report
import BillingClient.Json.Codec
import BillingClient.Json.Fields
import BillingClient.Json.Map
import BillingClient.Json.Node
import BillingClient.Json.Reader
import BillingClient.Json.Record
import BillingClient.Json.Value
import BillingClient.Json.Writer
import BillingClient.Number.Binary64
import BillingClient.Number.Decimal
import BillingClient.Number.Shortest
import BillingClient.Text.Base64
import BillingClient.Text.Blank
import BillingClient.Text.Digits
import BillingClient.Text.Form
import BillingClient.Text.Percent
import BillingClient.Text.Utf8
import BillingClient.Url.Authority
import BillingClient.Url.Basic
import BillingClient.Url.Encoding
import BillingClient.Url.Error
import BillingClient.Url.Host
import BillingClient.Url.Idna.CompositionTable
import BillingClient.Url.Idna.Direction
import BillingClient.Url.Idna.DirectionTable
import BillingClient.Url.Idna.Domain
import BillingClient.Url.Idna.Joiner
import BillingClient.Url.Idna.JoiningTable
import BillingClient.Url.Idna.MappingTable
import BillingClient.Url.Idna.Normalize
import BillingClient.Url.Idna.Punycode
import BillingClient.Url.Idna.Ranges
import BillingClient.Url.Ipv4
import BillingClient.Url.Ipv6
import BillingClient.Url.Parts
import BillingClient.Url.Path
import BillingClient.Url.Query
import BillingClient.Url.Reader
import BillingClient.Vocabulary.Currency
import BillingClient.Vocabulary.Identifier
import BillingClient.Vocabulary.Registry
import BillingClient.Vocabulary.Term
import BillingClient.Vocabulary.Uuid
import BillingClient.Vocabulary.Words
import BillingClient.Proofs.Text.Utf8
import BillingClient.Proofs.Text.Digits
import BillingClient.Proofs.Text.Slash
import BillingClient.Proofs.Json.NumberText
import BillingClient.Proofs.Json.StringText
import BillingClient.Proofs.Json.Omission
import BillingClient.Proofs.Json.Written
import BillingClient.Proofs.Number.Shortest
import BillingClient.Proofs.Json.FreeValue
import BillingClient.Proofs.Json.Faithful
import BillingClient.Proofs.Json.FaithfulRecord
import BillingClient.Proofs.Calendar.Date
import BillingClient.Proofs.Calendar.Instant
import BillingClient.Proofs.Vocabulary.Uuid
import BillingClient.Proofs.Vocabulary.Words
import BillingClient.Proofs.Vocabulary.Faithful
import BillingClient.Proofs.Domain.InvoiceItem
import BillingClient.Proofs.Domain.Faithful
import BillingClient.Proofs.Domain.Registry
import BillingClient.Proofs.Domain.RoundTrip
import BillingClient.Proofs.Json.Reading
import BillingClient.Proofs.Json.Collected
import BillingClient.Proofs.Json.WireForm
import BillingClient.Proofs.Json.Fields
import BillingClient.Proofs.Json.Ordered
import BillingClient.Proofs.Domain.Omission
import BillingClient.Proofs.Domain.Payment
import BillingClient.Proofs.Domain.Reading
import BillingClient.Proofs.Http.Dialogue
import BillingClient.Proofs.Http.Draft
import BillingClient.Proofs.Client.Talk
import BillingClient.Proofs.Client.FollowUp
import BillingClient.Proofs.Text.Percent
import BillingClient.Proofs.Url.Path
import BillingClient.Proofs.Url.Authority
import BillingClient.Proofs.Url.Server
import BillingClient.Proofs.Client.Resource
import BillingClient.Proofs.Client.FirstMessage
import BillingClient.Proofs.Call.FreeText
import BillingClient.Proofs.Http.Causality
import BillingClient.Proofs.Http.Redirect
import BillingClient.Proofs.Http.Report
import BillingClient.Proofs.Client.Exchanges
import BillingClient.Proofs.Call.Traffic
import BillingClient.Proofs.Call.Operation
import BillingClient.Proofs.Call.Author
import BillingClient.Proofs.Call.Answer
import BillingClient.Proofs.Call.Result
import BillingClient.Proofs.Url.Base
import BillingClient.Proofs.Client.Address
import BillingClient.Proofs.Client.Query
import BillingClient.Proofs.Call.Lookup
import BillingClient.Proofs.Call.Identity
import BillingClient.Proofs.Url.Host
import BillingClient.Proofs.Url.Origin
import BillingClient.Proofs.Http.Location
import BillingClient.Proofs.Call.Origin
import BillingClient.Proofs.Call.Payload
import BillingClient.Proofs.Call.Refusal
import BillingClient.Proofs.Text.Recoding
import BillingClient.Proofs.Url.Query
import BillingClient.Proofs.Call.Resource
import BillingClient.Proofs.Call.Delivery
import BillingClient.Proofs.Call.PluginProperty
import BillingClient.Proofs.Url.PathEnd
import BillingClient.Proofs.Url.Root
import BillingClient.Proofs.Call.Reach
import BillingClient.Proofs.Vocabulary.UuidForm
import BillingClient.Proofs.Vocabulary.Lexicon
import BillingClient.Proofs.Call.Batch
import BillingClient.Proofs.Number.DecimalText
import BillingClient.Proofs.Domain.Amount
import BillingClient.Proofs.Call.PaymentAmount
import BillingClient.Proofs.Number.Near
import BillingClient.Proofs.Number.Rounding
import BillingClient.Proofs.Number.RoundingInterval
import BillingClient.Proofs.Number.ShortestDigits
import BillingClient.Proofs.Number.AmountRounding
import BillingClient.Proofs.Number.PositionalDigits
import BillingClient.Proofs.Json.FloatText
import BillingClient.Proofs.Json.FloatAmount
import BillingClient.Proofs.Domain.AmountNumber
import BillingClient.Proofs.Text.Segment
import BillingClient.Proofs.Text.Base64
import BillingClient.Proofs.Url.User
import BillingClient.Proofs.Call.Credentials
import BillingClient.Proofs.Client.Moment
import BillingClient.Proofs.Client.Settings
