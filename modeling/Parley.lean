import Parley.Base64
import Parley.Checksum
import Parley.Client
import Parley.Command
import Parley.Compression.Bits
import Parley.Compression.CodeTree
import Parley.Compression.Deflate
import Parley.Compression.Inflate
import Parley.Compression.Symbols
import Parley.Config
import Parley.Console.Line
import Parley.Console.Paint
import Parley.Console.Screen
import Parley.Conversation.Basic
import Parley.Conversation.Task
import Parley.Definition.Basic
import Parley.Definition.Check
import Parley.Definition.Decode
import Parley.Definition.Draft
import Parley.Definition.Encode
import Parley.Definition.Event
import Parley.Definition.EventData
import Parley.Definition.Fault
import Parley.Definition.Load
import Parley.Definition.Protocol
import Parley.Definition.Rule
import Parley.Diagram
import Parley.Document
import Parley.Document.OfJson
import Parley.Document.OfYaml
import Parley.Json.Basic
import Parley.Json.Number
import Parley.Json.Parser
import Parley.Json.Printer
import Parley.Ledger
import Parley.Lua.Arithmetic
import Parley.Lua.Evaluator
import Parley.Lua.Interpreter
import Parley.Lua.Library
import Parley.Lua.Number
import Parley.Lua.Parser
import Parley.Lua.Token
import Parley.Lua.Tree
import Parley.Lua.Value
import Parley.Machine
import Parley.Main
import Parley.Multiplexer.Basic
import Parley.Multiplexer.Run
import Parley.Notification.Basic
import Parley.Notification.Decode
import Parley.Notification.Encode
import Parley.Pin
import Parley.Registers
import Parley.Script.Evaluator
import Parley.Script.Host
import Parley.Send.Basic
import Parley.Send.Build
import Parley.Store
import Parley.Template.Filter
import Parley.Template.Parser
import Parley.Template.Positional
import Parley.Template.Reference
import Parley.Template.Render
import Parley.Template.Token
import Parley.Template.Tree
import Parley.Template.Value
import Parley.Text.Blank
import Parley.Text.Decimal
import Parley.Text.LetterCase
import Parley.Text.LetterCase.Table
import Parley.TextMap
import Parley.Trigger
import Parley.Yaml.Cursor
import Parley.Yaml.Node
import Parley.Yaml.Scalar
import Parley.Yaml.Token
import Parley.Proofs.Definition.Acceptance
import Parley.Proofs.Definition.Canonical
import Parley.Proofs.Definition.Checked
import Parley.Proofs.Definition.Sorted
import Parley.Proofs.Document.Members
import Parley.Proofs.Json.Form
import Parley.Proofs.Json.Grammar
import Parley.Proofs.Json.RoundTrip
import Parley.Proofs.Machine.Entry
import Parley.Proofs.Machine.Item
import Parley.Proofs.Machine.FirstMatch
import Parley.Proofs.Machine.Reset
import Parley.Proofs.Machine.Rollback
import Parley.Proofs.Machine.End
import Parley.Proofs.Notification.RoundTrip
import Parley.Proofs.Conversation.AllOrNothing
import Parley.Proofs.Conversation.Answers
import Parley.Proofs.Conversation.Attempts
import Parley.Proofs.Conversation.Course
import Parley.Proofs.Conversation.Echo
import Parley.Proofs.Conversation.Ending
import Parley.Proofs.Conversation.Feedback
import Parley.Proofs.Conversation.FirstRefusal
import Parley.Proofs.Conversation.Lives
import Parley.Proofs.Conversation.OwnProtocols
import Parley.Proofs.Conversation.Permission
import Parley.Proofs.Conversation.Prefix
import Parley.Proofs.Conversation.Provenance
import Parley.Proofs.Conversation.Reckoning
import Parley.Proofs.Conversation.Shutdown
import Parley.Proofs.Conversation.Steady
import Parley.Proofs.Conversation.Step
import Parley.Proofs.Conversation.Surface
import Parley.Proofs.Multiplexer.Account
import Parley.Proofs.Multiplexer.Arrival
import Parley.Proofs.Multiplexer.Closing
import Parley.Proofs.Multiplexer.Confluence
import Parley.Proofs.Multiplexer.Conservation
import Parley.Proofs.Multiplexer.Counters
import Parley.Proofs.Multiplexer.Devoted
import Parley.Proofs.Multiplexer.Echo
import Parley.Proofs.Multiplexer.Hushed
import Parley.Proofs.Multiplexer.Lockstep
import Parley.Proofs.Multiplexer.Log
import Parley.Proofs.Multiplexer.Mirror
import Parley.Proofs.Multiplexer.Separation
import Parley.Proofs.Multiplexer.Settle
import Parley.Proofs.Multiplexer.Surface
import Parley.Proofs.Multiplexer.Unheard
import Parley.Proofs.Script.Control
import Parley.Proofs.Script.Plain
import Parley.Proofs.Lua.Globals
import Parley.Proofs.Script.Globals
import Parley.Proofs.Script.Banks
import Parley.Proofs.Send.Structure
import Parley.Proofs.Send.Composition
import Parley.Proofs.Template.Dots
import Parley.Proofs.Template.Letters
import Parley.Proofs.Template.Slot
import Parley.Proofs.Console.Typed
import Parley.Proofs.Text.Bytes
import Parley.Proofs.Text.Lines
import Parley.Proofs.Text.Words
import Parley.Proofs.Template.Verbatim
import Parley.Proofs.Notification.Content
import Parley.Proofs.Diagram.Lines
import Parley.Proofs.Diagram.Address
import Parley.Proofs.Base64
import Parley.Proofs.Compression.Bits
import Parley.Proofs.Compression.Symbols
import Parley.Proofs.Compression.Tokens
