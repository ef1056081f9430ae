import Hexaglyph.Catalog.Basic
import Hexaglyph.Catalog.Builtin
import Hexaglyph.Catalog.Definition
import Hexaglyph.Catalog.Document
import Hexaglyph.Catalog.Error
import Hexaglyph.Command.Basic
import Hexaglyph.Command.Failure
import Hexaglyph.Command.Host
import Hexaglyph.Command.Invocation
import Hexaglyph.Command.Options
import Hexaglyph.Command.Run
import Hexaglyph.Editor.Frame
import Hexaglyph.Editor.Intake
import Hexaglyph.Editor.Message
import Hexaglyph.Editor.Params
import Hexaglyph.Editor.Service
import Hexaglyph.Files.Path
import Hexaglyph.Files.Tree
import Hexaglyph.Grading.Assignment
import Hexaglyph.Grading.Grade
import Hexaglyph.Grading.Sheet
import Hexaglyph.Json.Basic
import Hexaglyph.Json.Field
import Hexaglyph.Json.Lexeme
import Hexaglyph.Json.Magnitude
import Hexaglyph.Json.Reader
import Hexaglyph.Json.Writer
import Hexaglyph.Main
import Hexaglyph.Mapping
import Hexaglyph.Program.Diagnostic
import Hexaglyph.Program.Encoding
import Hexaglyph.Program.Hover
import Hexaglyph.Program.Layout
import Hexaglyph.Program.Listing
import Hexaglyph.Program.Position
import Hexaglyph.Program.Rotation
import Hexaglyph.Program.Summary
import Hexaglyph.Program.Token
import Hexaglyph.Program.Translation
import Hexaglyph.Program.Workshop
import Hexaglyph.Proofs.Composition
import Hexaglyph.Proofs.Diagnostics
import Hexaglyph.Proofs.Encoding
import Hexaglyph.Proofs.Hover
import Hexaglyph.Proofs.LetterCase
import Hexaglyph.Proofs.Listing
import Hexaglyph.Proofs.Loading
import Hexaglyph.Proofs.Pieces
import Hexaglyph.Proofs.Placement
import Hexaglyph.Proofs.Positions
import Hexaglyph.Proofs.Symbols
import Hexaglyph.Proofs.Tokens
import Hexaglyph.Settings
import Hexaglyph.Signed64
import Hexaglyph.Text.Base64
import Hexaglyph.Text.Basic
import Hexaglyph.Text.CaseRun
import Hexaglyph.Text.Columns
import Hexaglyph.Text.Digits
import Hexaglyph.Text.FoldRuns
import Hexaglyph.Text.LetterCase
import Hexaglyph.Text.Printable
import Hexaglyph.Text.Quoted
import Hexaglyph.Text.Symbol
import Hexaglyph.Text.UpperRuns
import Hexaglyph.Trace
import Hexaglyph.Web.Address
import Hexaglyph.Web.Http
import Hexaglyph.Web.Ipv6
import Hexaglyph.Web.Page
import Hexaglyph.Web.Socket
import Hexaglyph.Web.Url
import Hexaglyph.Proofs.Conversation
import Hexaglyph.Proofs.Segments
import Hexaglyph.Proofs.Coherence
import Hexaglyph.Proofs.Queries
import Hexaglyph.Proofs.Commands
import Hexaglyph.Proofs.Hosts
import Hexaglyph.Proofs.Envelope
import Hexaglyph.Proofs.Layout
import Hexaglyph.Proofs.Grading
import Hexaglyph.Proofs.OwnListing
import Hexaglyph.Proofs.Answers
import Hexaglyph.Proofs.Warnings
import Hexaglyph.Proofs.Spacing
import Hexaglyph.Proofs.Influence
import Hexaglyph.Proofs.Acceptance
import Hexaglyph.Proofs.Enumeration
import Hexaglyph.Proofs.Vocabulary
import Hexaglyph.Proofs.Overlaps
import Hexaglyph.Proofs.Letters
import Hexaglyph.Proofs.HexText
import Hexaglyph.Proofs.CaseBlind
import Hexaglyph.Proofs.Edits
import Hexaglyph.Proofs.NormalListing
import Hexaglyph.Proofs.Files
import Hexaglyph.Proofs.Safekeeping
import Hexaglyph.Proofs.LoadedSettings
import Hexaglyph.Proofs.Interruption
