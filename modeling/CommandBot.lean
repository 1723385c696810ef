import CommandBot.Main
import CommandBot.Proofs.Command.Nested
import CommandBot.Proofs.Document.Declarations
import CommandBot.Proofs.Document.Loaded
import CommandBot.Proofs.Session.Access
import CommandBot.Proofs.Command.Height
import CommandBot.Proofs.Run.Depth
import CommandBot.Proofs.Command.Leaves
import CommandBot.Proofs.Run.Effect
import CommandBot.Proofs.Session.Attached
import CommandBot.Proofs.Hooks.Discipline
import CommandBot.Proofs.Document.Repeated
import CommandBot.Proofs.Run.Plan
import CommandBot.Proofs.Command.Content
import CommandBot.Proofs.Scope.Larger
import CommandBot.Proofs.Document.Reordered
import CommandBot.Proofs.Document.Listeners
import CommandBot.Proofs.Session.Listening
import CommandBot.Proofs.Run.Failure
import CommandBot.Proofs.Session.Failure
import CommandBot.Proofs.Run.Occurrence
import CommandBot.Proofs.Session.Report
import CommandBot.Proofs.Files
import CommandBot.Proofs.Run.Footprint
import CommandBot.Proofs.Session.Footprint
import CommandBot.Proofs.Document.Desugared
import CommandBot.Proofs.Dispatch.Delivery
import CommandBot.Proofs.Talk
import CommandBot.Proofs.Text.Words
import CommandBot.Proofs.Scope.Expressible
import CommandBot.Proofs.Scope.Writing
import CommandBot.Proofs.Irc.Framing
import CommandBot.Proofs.Irc.Conversation
import CommandBot.Irc.Link
import CommandBot.Proofs.Interleaves
import CommandBot.Proofs.Irc.Link
import CommandBot.Proofs.Irc.Schedule
import CommandBot.Proofs.Irc.Reading
import CommandBot.Proofs.Irc.Login
import CommandBot.Proofs.Session.Shorthand
import CommandBot.Proofs.Command.Canonical
import CommandBot.Proofs.Run.Canonical
import CommandBot.Proofs.Session.Canonical
import CommandBot.Proofs.Scope.Canonical
import CommandBot.Proofs.Document.Canonical
import CommandBot.Proofs.Text.Spelling
import CommandBot.Proofs.Session.Reading
import CommandBot.Proofs.Command.Selection
import CommandBot.Proofs.Session.Display
import CommandBot.Proofs.Interpolation
import CommandBot.Proofs.Session.Arguments
import CommandBot.Proofs.Talk
