import Dataflow.Command.Arguments
import Dataflow.Command.Basic
import Dataflow.Command.Output
import Dataflow.Command.Run
import Dataflow.Console.Fit
import Dataflow.Console.Markup
import Dataflow.Console.Screen
import Dataflow.Console.Table
import Dataflow.Definition.Basic
import Dataflow.Definition.Edit
import Dataflow.Definition.Payload
import Dataflow.Definition.View
import Dataflow.Definition.Wire
import Dataflow.Failure
import Dataflow.Json.Basic
import Dataflow.Json.Display
import Dataflow.Json.Printer
import Dataflow.Json.Reader
import Dataflow.Json.Shape
import Dataflow.Main
import Dataflow.Mashup.Attribute
import Dataflow.Mashup.Bracket
import Dataflow.Mashup.Declaration
import Dataflow.Mashup.Keyword
import Dataflow.Mashup.Literal
import Dataflow.Mashup.Name
import Dataflow.Mashup.Report
import Dataflow.Mashup.Section
import Dataflow.Mashup.Wide
import Dataflow.Metadata.Basic
import Dataflow.Metadata.Connection
import Dataflow.Metadata.Entry
import Dataflow.Metadata.Patch
import Dataflow.Number.Double
import Dataflow.Number.Shortest
import Dataflow.Proofs.Acceptance
import Dataflow.Proofs.Additive
import Dataflow.Proofs.Agreement
import Dataflow.Proofs.Appending
import Dataflow.Proofs.Arrangement
import Dataflow.Proofs.Attribute
import Dataflow.Proofs.Balance
import Dataflow.Proofs.Blank
import Dataflow.Proofs.Calls
import Dataflow.Proofs.Code
import Dataflow.Proofs.Comment
import Dataflow.Proofs.Concatenation
import Dataflow.Proofs.Destination
import Dataflow.Proofs.Detection
import Dataflow.Proofs.Effects
import Dataflow.Proofs.Enclosure
import Dataflow.Proofs.Ending
import Dataflow.Proofs.Enlisting
import Dataflow.Proofs.Entrance
import Dataflow.Proofs.Extent
import Dataflow.Proofs.Feasibility
import Dataflow.Proofs.Fields
import Dataflow.Proofs.Finding
import Dataflow.Proofs.Gathering
import Dataflow.Proofs.Heading
import Dataflow.Proofs.Hiding
import Dataflow.Proofs.Idempotence
import Dataflow.Proofs.Identity
import Dataflow.Proofs.Interchange
import Dataflow.Proofs.Issuing
import Dataflow.Proofs.Lens
import Dataflow.Proofs.Lexing
import Dataflow.Proofs.Listing
import Dataflow.Proofs.Marking
import Dataflow.Proofs.Matching
import Dataflow.Proofs.Mirror
import Dataflow.Proofs.Naming
import Dataflow.Proofs.Nesting
import Dataflow.Proofs.Numeral
import Dataflow.Proofs.Occurrence
import Dataflow.Proofs.Overwriting
import Dataflow.Proofs.Pairing
import Dataflow.Proofs.Payload
import Dataflow.Proofs.Reading
import Dataflow.Proofs.Rebuilding
import Dataflow.Proofs.Reencoding
import Dataflow.Proofs.Referring
import Dataflow.Proofs.Registration
import Dataflow.Proofs.Rendering
import Dataflow.Proofs.Replacing
import Dataflow.Proofs.Resaving
import Dataflow.Proofs.Retracing
import Dataflow.Proofs.Rewriting
import Dataflow.Proofs.Rounding
import Dataflow.Proofs.Seat
import Dataflow.Proofs.SectionAttribute
import Dataflow.Proofs.SectionKey
import Dataflow.Proofs.Storage
import Dataflow.Proofs.Trailing
import Dataflow.Proofs.Viewing
import Dataflow.Proofs.Wide
import Dataflow.Proofs.Written
import Dataflow.Service
import Dataflow.Store.Basic
import Dataflow.Store.Disk
import Dataflow.Store.Folder
import Dataflow.Text.Base64
import Dataflow.Text.Basic
import Dataflow.Text.Blank
import Dataflow.Text.Cased
import Dataflow.Text.Fold
import Dataflow.Text.Lower
import Dataflow.Text.Printable
import Dataflow.Text.Upper
import Dataflow.Text.Utf8
import Dataflow.Text.Wide
import Dataflow.Text.Word
import Dataflow.Tool
