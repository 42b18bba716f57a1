import Unbundle.Bytes
import Unbundle.Code.Body
import Unbundle.Code.Instruction
import Unbundle.Code.Opcode
import Unbundle.Command.Arguments
import Unbundle.Command.Run
import Unbundle.Console.Item
import Unbundle.Console.Layout
import Unbundle.Console.Markup
import Unbundle.Console.Report
import Unbundle.Console.Style
import Unbundle.Diagnostics
import Unbundle.Files.Output
import Unbundle.Files.Path
import Unbundle.Files.Pattern
import Unbundle.Files.System
import Unbundle.Files.Tree
import Unbundle.Flate.Bits
import Unbundle.Flate.Block
import Unbundle.Flate.Huffman
import Unbundle.Flate.Payload
import Unbundle.Identity.AssemblyName
import Unbundle.Identity.Basic
import Unbundle.Identity.OfFile
import Unbundle.Identity.Sha1
import Unbundle.Image.Basic
import Unbundle.Image.Headers
import Unbundle.Json.Decimal
import Unbundle.Json.Parse
import Unbundle.Json.Value
import Unbundle.Main
import Unbundle.Manifest.Extraction
import Unbundle.Manifest.Offset
import Unbundle.Matching.Located
import Unbundle.Matching.Roles
import Unbundle.Matching.Shape
import Unbundle.Metadata.Defect
import Unbundle.Metadata.Heap
import Unbundle.Metadata.Open
import Unbundle.Metadata.ResourceSet
import Unbundle.Metadata.Root
import Unbundle.Metadata.Rows
import Unbundle.Metadata.Schema
import Unbundle.Metadata.Tables
import Unbundle.Module.Basic
import Unbundle.Module.Build
import Unbundle.Module.Names
import Unbundle.Module.Resolution
import Unbundle.Module.Tokens
import Unbundle.Module.TypeSig
import Unbundle.Recovery
import Unbundle.Report.Basic
import Unbundle.Report.Failure
import Unbundle.Report.Process
import Unbundle.Report.Scan
import Unbundle.Settings.Basic
import Unbundle.Settings.EnvironmentFile
import Unbundle.Settings.Load
import Unbundle.Settings.Sources
import Unbundle.Signature.Form
import Unbundle.Signature.Reader
import Unbundle.Text.Blank
import Unbundle.Text.Case
import Unbundle.Text.Digits
import Unbundle.Text.Emoji
import Unbundle.Text.EmojiNames
import Unbundle.Text.Hidden
import Unbundle.Text.Quoted
import Unbundle.Text.Utf8
import Unbundle.Text.Width
import Unbundle.Xml.Charset
import Unbundle.Xml.CharsetTables
import Unbundle.Xml.Doctype
import Unbundle.Xml.Document
import Unbundle.Xml.Name
import Unbundle.Xml.NameChars
import Unbundle.Xml.Scan
import Unbundle.Xml.Tree
import Unbundle.Proofs.Module.Nesting
import Unbundle.Proofs.Module.Sound
import Unbundle.Proofs.Search
import Unbundle.Proofs.Matching.Shapes
import Unbundle.Proofs.Outcome
import Unbundle.Proofs.Matching.Reference
import Unbundle.Proofs.Bytes
import Unbundle.Proofs.Code.RoundTrip
import Unbundle.Proofs.Flate.Stored
import Unbundle.Proofs.Manifest.Fold
import Unbundle.Proofs.Manifest.Offsets
import Unbundle.Proofs.Manifest.Pulling
import Unbundle.Proofs.Manifest.RoundTrip
import Unbundle.Proofs.Signature.RoundTrip
import Unbundle.Proofs.Recovery.History
import Unbundle.Proofs.Module.Familiar
import Unbundle.Proofs.Module.Renaming
import Unbundle.Proofs.Matching.Renaming
import Unbundle.Proofs.Matching.Distinct
import Unbundle.Proofs.Module.Consistent
import Unbundle.Proofs.Files.Confinement
import Unbundle.Proofs.Report.Written
import Unbundle.Proofs.Circle
import Unbundle.Proofs.Module.Lookups
import Unbundle.Proofs.Module.Requests
import Unbundle.Proofs.Module.Circular
import Unbundle.Proofs.Module.NestingTable
import Unbundle.Proofs.Module.Naming
import Unbundle.Proofs.Recovery.Separation
import Unbundle.Proofs.Code.Prefix
import Unbundle.Proofs.Matching.FirstHit
import Unbundle.Proofs.Signature.Delimited
import Unbundle.Proofs.Code.Cutting
import Unbundle.Proofs.Module.Signatures
import Unbundle.Proofs.Matching.Schedules
import Unbundle.Proofs.Flate.Format
import Unbundle.Proofs.Flate.Taking
import Unbundle.Proofs.Flate.Canonical
import Unbundle.Proofs.Flate.Words
import Unbundle.Proofs.Flate.Blocks
import Unbundle.Proofs.Flate.Payloads
import Unbundle.Proofs.Module.Remembering
import Unbundle.Proofs.Module.Tables
import Unbundle.Proofs.Module.Sessions
import Unbundle.Proofs.Module.Damage
import Unbundle.Proofs.Files.Unclobbered
import Unbundle.Proofs.Manifest.Numerals
import Unbundle.Proofs.Manifest.Presentation
import Unbundle.Proofs.Files.Recording
import Unbundle.Proofs.Report.Listed
import Unbundle.Proofs.Report.Consistent
import Unbundle.Proofs.Code.Headers
import Unbundle.Proofs.Signature.Compressed
import Unbundle.Proofs.Text
import Unbundle.Proofs.Identity.DisplayName
import Unbundle.Proofs.Module.Resources
