import Receipts.Base64
import Receipts.Catalog
import Receipts.Catalog.Basic
import Receipts.Catalog.Beacons
import Receipts.Catalog.Fanbasis
import Receipts.Catalog.StanStore
import Receipts.Decimal.Shortest
import Receipts.Dialect
import Receipts.DomainName
import Receipts.DomainName.Composition
import Receipts.DomainName.CompositionTable
import Receipts.DomainName.Direction
import Receipts.DomainName.DirectionTable
import Receipts.DomainName.Mapping
import Receipts.DomainName.MappingTable
import Receipts.DomainName.MarkTable
import Receipts.DomainName.Punycode
import Receipts.Draft
import Receipts.Error
import Receipts.Extract
import Receipts.Field
import Receipts.FileReference
import Receipts.FormValues
import Receipts.FormValues.Document
import Receipts.Http.Exchange
import Receipts.Http.Host
import Receipts.Http.Percent
import Receipts.Http.Status
import Receipts.Http.Url
import Receipts.Http.Wire
import Receipts.Json.Fault
import Receipts.Json.Format
import Receipts.Json.Number
import Receipts.Json.Print
import Receipts.Json.Read
import Receipts.Json.Scan
import Receipts.Json.Shape
import Receipts.Json.Value
import Receipts.KeyOrder
import Receipts.Mail.Email
import Receipts.Mail.Error
import Receipts.Mail.HeaderText
import Receipts.Mail.Mailbox
import Receipts.Mail.Mailer
import Receipts.Mail.Message
import Receipts.Mail.Outbox
import Receipts.Mail.Provider
import Receipts.Mail.SendRequest
import Receipts.Mail.Sender
import Receipts.Mail.Settings
import Receipts.Main
import Receipts.Pattern.Automaton
import Receipts.Pattern.Basic
import Receipts.Pattern.Bracket
import Receipts.Pattern.Escape
import Receipts.Pattern.Modes
import Receipts.Pattern.Room
import Receipts.Pattern.Search
import Receipts.Pattern.Source
import Receipts.Pattern.Ways
import Receipts.Photo.Basic
import Receipts.Photo.CodeFence
import Receipts.Photo.VisionModel
import Receipts.PlainText
import Receipts.Render
import Receipts.Server.Arguments
import Receipts.Server.ListenAddress
import Receipts.Server.Start
import Receipts.Template.Document
import Receipts.Template.Form
import Receipts.Template.ImageSource
import Receipts.Template.Placeholder
import Receipts.Text.AnyCase
import Receipts.Text.Blank
import Receipts.Text.BreakTable
import Receipts.Text.Case
import Receipts.Text.CaseTable
import Receipts.Text.CharSet
import Receipts.Text.FoldTable
import Receipts.Text.Hex
import Receipts.Text.LetterTable
import Receipts.Text.Pieces
import Receipts.Text.Printable
import Receipts.Text.PrintableTable
import Receipts.Text.Property
import Receipts.Text.PropertyTable
import Receipts.Text.RecordedSets
import Receipts.Text.Replace
import Receipts.Text.Utf8
import Receipts.Text.Word
import Receipts.Text.WordTable
import Receipts.Web.BasePath
import Receipts.Web.Documents
import Receipts.Web.MediaType
import Receipts.Web.Message
import Receipts.Web.Multipart
import Receipts.Web.Service
import Receipts.Web.ServiceError
import Receipts.Proofs.Template.Scan
import Receipts.Proofs.KeyOrder
import Receipts.Proofs.FormValues.Lookup
import Receipts.Proofs.Render.Phases
import Receipts.Proofs.Template.WellFormed
import Receipts.Proofs.Render.Expansion
import Receipts.Proofs.Render.SuppliedTokens
import Receipts.Proofs.Outline.Basic
import Receipts.Proofs.Outline.Matching
import Receipts.Proofs.Outline.Reading
import Receipts.Proofs.Outline.Soundness
import Receipts.Proofs.Catalog.Spelling
import Receipts.Proofs.Extract.Benign
import Receipts.Proofs.Extract.Rules
import Receipts.Proofs.Extract.Readings
import Receipts.Proofs.Extract.Recovery
import Receipts.Proofs.Template.Matches
import Receipts.Proofs.Template.Fields
import Receipts.Proofs.Render.Filling
import Receipts.Proofs.Render.ExtraKeys
import Receipts.Proofs.Extract.PartialRecovery
import Receipts.Proofs.Extract.Guesses
import Receipts.Proofs.Catalog.PartlyFilled
import Receipts.Proofs.Extract.LeftOut
import Receipts.Proofs.Extract.RoundTrip
import Receipts.Proofs.Text.AnyCase
import Receipts.Proofs.Text.Lines
import Receipts.Proofs.Text.Trim
import Receipts.Proofs.Json.Quoted
import Receipts.Proofs.Json.Containers
import Receipts.Proofs.Json.Records
import Receipts.Proofs.Mail.HandOff
import Receipts.Proofs.Json.Alike
import Receipts.Proofs.Json.Objects
import Receipts.Proofs.FormValues.Saving
import Receipts.Proofs.Web.Orders
import Receipts.Proofs.Web.Recorded
import Receipts.Proofs.Text.Utf8
import Receipts.Proofs.Base64
import Receipts.Proofs.FileReference
import Receipts.Proofs.Http.Calls
import Receipts.Proofs.Web.Delivery
import Receipts.Proofs.Web.FormHeads
import Receipts.Proofs.Web.FormEntries
import Receipts.Proofs.Web.Forms
import Receipts.Proofs.Web.Uploads
import Receipts.Proofs.Web.UploadSize
import Receipts.Proofs.Photo.Conversion
import Receipts.Proofs.Web.Conversions
import Receipts.Proofs.FormValues.Merging
import Receipts.Proofs.Catalog.Drafts
import Receipts.Proofs.PlainText.Blanks
import Receipts.Proofs.PlainText.Entities
import Receipts.Proofs.PlainText.Markup
import Receipts.Proofs.PlainText.VisibleText
import Receipts.Proofs.Mail.Composing
import Receipts.Proofs.PlainText.Brackets
import Receipts.Proofs.PlainText.HiddenContent
import Receipts.Proofs.PlainText.NormalBlanks
import Receipts.Proofs.Template.ImageTags
import Receipts.Proofs.Mail.Payload
import Receipts.Proofs.Json.Grammar
import Receipts.Proofs.Json.Scanning
import Receipts.Proofs.Json.Turns
import Receipts.Proofs.Json.Passing
import Receipts.Proofs.Json.Decoding
import Receipts.Proofs.Json.RecordForms
import Receipts.Proofs.Mail.Refusals
import Receipts.Proofs.Photo.Refusals
import Receipts.Proofs.Web.Refusals
import Receipts.Proofs.Extract.Tables
import Receipts.Proofs.Photo.CodeFence
import Receipts.Proofs.Render.UploadedFile
import Receipts.Proofs.Text.Words
import Receipts.Proofs.Field.Classification
import Receipts.Proofs.Text.AsciiCase
import Receipts.Proofs.Field.Labels
import Receipts.Proofs.Render.Removal
