import SlashChat.Json.Reading
import SlashChat.Line.Machine
import SlashChat.Line.Writing
import SlashChat.Main
import SlashChat.Proofs.Line.Machine
import SlashChat.Proofs.Catalog.History
import SlashChat.Proofs.Line.Request
import SlashChat.Proofs.Switchboard.Response
import SlashChat.Proofs.Switchboard.Ledger
import SlashChat.Proofs.Fortune.Stream
import SlashChat.Proofs.Line.Writing
import SlashChat.Proofs.Line.Lead
import SlashChat.Proofs.Text.Utf8
import SlashChat.Proofs.Host.Console
import SlashChat.Proofs.Switchboard.Delivery
import SlashChat.Proofs.Program.Session
import SlashChat.Proofs.Program.Chat
import SlashChat.Proofs.Plugin.Install
import SlashChat.Proofs.Plugin.Lifecycle
import SlashChat.Proofs.Host.Agreement
import SlashChat.Proofs.Text.Digits
import SlashChat.Proofs.Yaml.Cursor
import SlashChat.Proofs.Yaml.Gap
import SlashChat.Proofs.Yaml.Plain
import SlashChat.Proofs.Yaml.Escape
import SlashChat.Proofs.Yaml.Quoted
import SlashChat.Proofs.Yaml.Block
import SlashChat.Proofs.Yaml.Lexer
import SlashChat.Proofs.Yaml.Scalar
import SlashChat.Proofs.Yaml.Row
import SlashChat.Proofs.Settings.RoundTrip
import SlashChat.Proofs.Yaml.Listing
import SlashChat.Proofs.Random.Choice
import SlashChat.Proofs.Fortune.Fairness
import SlashChat.Proofs.Fortune.Count
import SlashChat.Proofs.Fortune.Reply
import SlashChat.Proofs.Program.Heard
import SlashChat.Proofs.Program.Ending
import SlashChat.Proofs.Line.FirstToken
import SlashChat.Proofs.Switchboard.Reach
import SlashChat.Proofs.Fortune.Announcement
import SlashChat.Proofs.Catalog.Help
import SlashChat.Line.Slicing
import SlashChat.Proofs.Line.Concatenation
import SlashChat.Proofs.Line.Slicing
import SlashChat.Proofs.Json.RoundTrip
import SlashChat.Proofs.Program.Printed
import SlashChat.Proofs.Settings.Leaves
import SlashChat.Proofs.Settings.Rearranging
