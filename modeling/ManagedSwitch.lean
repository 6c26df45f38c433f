import ManagedSwitch.Main
import ManagedSwitch.Proofs.Config.Acceptance
import ManagedSwitch.Proofs.Config.Escape
import ManagedSwitch.Proofs.Config.Grammar
import ManagedSwitch.Proofs.Config.Loading
import ManagedSwitch.Proofs.Config.Origin
import ManagedSwitch.Proofs.Config.Outcome
import ManagedSwitch.Proofs.Config.Retention
import ManagedSwitch.Proofs.Config.Selection
import ManagedSwitch.Proofs.Config.WellFormed
import ManagedSwitch.Proofs.Document.Long
import ManagedSwitch.Proofs.Http.FormReading
import ManagedSwitch.Proofs.Http.Framing
import ManagedSwitch.Proofs.Net.After
import ManagedSwitch.Proofs.Net.Answers
import ManagedSwitch.Proofs.Net.Asking
import ManagedSwitch.Proofs.Net.Deadline
import ManagedSwitch.Proofs.Net.Lateness
import ManagedSwitch.Proofs.Net.Stillness
import ManagedSwitch.Proofs.Number.Decimal
import ManagedSwitch.Proofs.Number.Scripts
import ManagedSwitch.Proofs.Provision.Account
import ManagedSwitch.Proofs.Provision.Admission
import ManagedSwitch.Proofs.Provision.Application
import ManagedSwitch.Proofs.Provision.Attempts
import ManagedSwitch.Proofs.Provision.Authentication
import ManagedSwitch.Proofs.Provision.Framing
import ManagedSwitch.Proofs.Provision.Isolation
import ManagedSwitch.Proofs.Provision.Telling
import ManagedSwitch.Proofs.Table
import ManagedSwitch.Proofs.Text.Lines
import ManagedSwitch.Proofs.Text.Percent
import ManagedSwitch.Proofs.Text.Split
import ManagedSwitch.Proofs.Text.StrictUtf8
import ManagedSwitch.Proofs.Text.Utf8
import ManagedSwitch.Proofs.Vlan.Firmware
import ManagedSwitch.Proofs.Vlan.Narrowing
import ManagedSwitch.Proofs.Vlan.Settings
import ManagedSwitch.Proofs.Writes
import ManagedSwitch.Proofs.Provision.Success
import ManagedSwitch.Proofs.Tool.Program
import ManagedSwitch.Proofs.Tool.Provisioning
import ManagedSwitch.Proofs.Stats.Scraping
import ManagedSwitch.Proofs.Stats.Series
import ManagedSwitch.Proofs.Net.Troubles
import ManagedSwitch.Proofs.Text.FeedFree
import ManagedSwitch.Proofs.Stats.Caching
import ManagedSwitch.Proofs.Vlan.Listing
import ManagedSwitch.Proofs.Vlan.View
import ManagedSwitch.Proofs.Stats.LineFeeds
import ManagedSwitch.Proofs.Tool.Secrecy
import ManagedSwitch.Proofs.Net.Course
import ManagedSwitch.Proofs.Net.Ending
import ManagedSwitch.Proofs.Net.Pacing
import ManagedSwitch.Proofs.Net.Sockets
import ManagedSwitch.Proofs.Net.Chunks
import ManagedSwitch.Proofs.Text.Trim
import ManagedSwitch.Proofs.Text.Latin1
import ManagedSwitch.Proofs.Text.Replacement
import ManagedSwitch.Proofs.Http.ResponseGrammar
import ManagedSwitch.Proofs.Http.Reply
import ManagedSwitch.Proofs.Http.RequestReading
import ManagedSwitch.Proofs.Http.FormContents
import ManagedSwitch.Proofs.Config.Restriction
import ManagedSwitch.Proofs.Vlan.Saying
import ManagedSwitch.Proofs.Vlan.MissingTemplates
import ManagedSwitch.Proofs.Vlan.Reordering
import ManagedSwitch.Proofs.Text.LetterCase
import ManagedSwitch.Proofs.Number.Limit
import ManagedSwitch.Proofs.Config.OwnSelectors
import ManagedSwitch.Proofs.Text.Words
import ManagedSwitch.Proofs.Number.Numeral
import ManagedSwitch.Proofs.Stats.MetricReading
import ManagedSwitch.Proofs.Stats.PortTable
import ManagedSwitch.Proofs.Json.Token
import ManagedSwitch.Proofs.Json.Tree
import ManagedSwitch.Proofs.Json.Written
import ManagedSwitch.Proofs.Vlan.ViewText
