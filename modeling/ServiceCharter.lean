import ServiceCharter.Main
import ServiceCharter.Proofs.Command.Agreement
import ServiceCharter.Proofs.Command.DefaultCommand
import ServiceCharter.Proofs.Command.Overrides
import ServiceCharter.Proofs.Command.Precedence
import ServiceCharter.Proofs.Command.Segments
import ServiceCharter.Proofs.Document.History
import ServiceCharter.Proofs.Format.Conversion
import ServiceCharter.Proofs.Format.Registering
import ServiceCharter.Proofs.Html.Composition
import ServiceCharter.Proofs.Html.Faithful
import ServiceCharter.Proofs.Html.Shape
import ServiceCharter.Proofs.Html.Standalone
import ServiceCharter.Proofs.Markup.Spelling
import ServiceCharter.Proofs.Markup.Stages
import ServiceCharter.Proofs.Markup.Uniqueness
import ServiceCharter.Proofs.PlainText.Agreement
import ServiceCharter.Proofs.PlainText.Items
import ServiceCharter.Proofs.PlainText.Sections
import ServiceCharter.Proofs.Reply.Fence
import ServiceCharter.Proofs.Reply.Languages
import ServiceCharter.Proofs.Reply.Wrapping
import ServiceCharter.Proofs.Session.Downloads
import ServiceCharter.Proofs.Settings.Overriding
