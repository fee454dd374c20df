import CivicSite.Backend
import CivicSite.Component.Basic
import CivicSite.Component.Record
import CivicSite.Disk
import CivicSite.Double.Basic
import CivicSite.Double.Decimal
import CivicSite.DraftCache
import CivicSite.Entries
import CivicSite.Fault
import CivicSite.Json.Basic
import CivicSite.Json.Reader
import CivicSite.Json.Writer
import CivicSite.Listing
import CivicSite.Markup
import CivicSite.Network
import CivicSite.Page.Block
import CivicSite.Page.Preview
import CivicSite.Page.Site
import CivicSite.Post
import CivicSite.Proofs.Backend.Answers
import CivicSite.Proofs.Double.Ceiling
import CivicSite.Proofs.Double.Decimal
import CivicSite.Proofs.Draft.Apart
import CivicSite.Proofs.Draft.Lenient
import CivicSite.Proofs.Draft.RoundTrip
import CivicSite.Proofs.Draft.Unknown
import CivicSite.Proofs.Json.Escapes
import CivicSite.Proofs.Json.Joined
import CivicSite.Proofs.Json.Numeral
import CivicSite.Proofs.Json.Texts
import CivicSite.Proofs.Listing.Pages
import CivicSite.Proofs.Listing.Search
import CivicSite.Proofs.Listing.Views
import CivicSite.Proofs.Page.Agreement
import CivicSite.Proofs.Page.Arrangement
import CivicSite.Proofs.Page.Articles
import CivicSite.Proofs.Page.Cards
import CivicSite.Proofs.Page.Closed
import CivicSite.Proofs.Page.Ids
import CivicSite.Proofs.Page.Outline
import CivicSite.Proofs.Page.Sections
import CivicSite.Proofs.Page.Snapshots
import CivicSite.Proofs.Post.Newest
import CivicSite.Proofs.Post.RoundTrip
import CivicSite.Proofs.Publishing.Run
import CivicSite.Proofs.Script.Settings
import CivicSite.Proofs.Session.Faults
import CivicSite.Proofs.Session.Reopening
import CivicSite.Proofs.Settings.Loading
import CivicSite.Proofs.Settings.Saving
import CivicSite.Proofs.Store.Refinement
import CivicSite.Proofs.Text.Lower
import CivicSite.Proofs.Timestamp.Seconds
import CivicSite.Proofs.Tree.Between
import CivicSite.Proofs.Tree.Effect
import CivicSite.Proofs.Window.Delivery
import CivicSite.Proofs.Window.Remembering
import CivicSite.Proofs.Window.Showing
import CivicSite.Proofs.Window.Succession
import CivicSite.Publishing
import CivicSite.Script.Blog
import CivicSite.Script.Code
import CivicSite.Script.Map
import CivicSite.Script.Page
import CivicSite.Script.Site
import CivicSite.Section
import CivicSite.Session
import CivicSite.Settings
import CivicSite.Settlement
import CivicSite.Site
import CivicSite.Slice
import CivicSite.Store.Basic
import CivicSite.Store.File
import CivicSite.Stylesheet.Basic
import CivicSite.Stylesheet.Site
import CivicSite.Supply
import CivicSite.Text.Basic
import CivicSite.Text.Blank
import CivicSite.Text.Case
import CivicSite.Text.CaseTable
import CivicSite.Text.Digit
import CivicSite.Text.Numeral
import CivicSite.Text.Percent
import CivicSite.Text.Printable
import CivicSite.Text.Quoted
import CivicSite.Text.Ranges
import CivicSite.Text.Search
import CivicSite.Text.Utf8
import CivicSite.Timestamp.Basic
import CivicSite.Timestamp.Iso
import CivicSite.Tree.Basic
import CivicSite.Window.Basic
import CivicSite.Window.Change
import CivicSite.Window.Command
import CivicSite.Window.Delivery
import CivicSite.Window.Editing
import CivicSite.Window.Gesture
import CivicSite.Window.Launch
import CivicSite.Window.Layout
import CivicSite.Window.Opening
import CivicSite.Window.Turn
