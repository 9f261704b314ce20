import HeaderBindings.Artifact.Identifier
import HeaderBindings.Artifact.Storage
import HeaderBindings.Capture
import HeaderBindings.Catalog
import HeaderBindings.Command
import HeaderBindings.CommandLine
import HeaderBindings.Config
import HeaderBindings.Conformance
import HeaderBindings.Decimal.Binary64
import HeaderBindings.Decimal.Integer
import HeaderBindings.Decimal.Shortest
import HeaderBindings.Declaration
import HeaderBindings.Document.Basic
import HeaderBindings.Document.Codec
import HeaderBindings.Document.Validation
import HeaderBindings.Error
import HeaderBindings.Exclusion
import HeaderBindings.Export
import HeaderBindings.Family
import HeaderBindings.File.Path
import HeaderBindings.File.Tree
import HeaderBindings.IntegerType
import HeaderBindings.Json.Basic
import HeaderBindings.Json.Decoder
import HeaderBindings.Json.Fault
import HeaderBindings.Json.Literal
import HeaderBindings.Json.Numeral
import HeaderBindings.Json.Printer
import HeaderBindings.Json.Token
import HeaderBindings.Layout
import HeaderBindings.Log
import HeaderBindings.Main
import HeaderBindings.Merge
import HeaderBindings.NameMap
import HeaderBindings.Platform
import HeaderBindings.Proofs.Artifact.Attribution
import HeaderBindings.Proofs.Artifact.FirstLine
import HeaderBindings.Proofs.Artifact.FirstMention
import HeaderBindings.Proofs.Artifact.Form
import HeaderBindings.Proofs.Artifact.LineEnd
import HeaderBindings.Proofs.Artifact.Mention
import HeaderBindings.Proofs.Artifact.Offset
import HeaderBindings.Proofs.Artifact.Place
import HeaderBindings.Proofs.Artifact.Recognition
import HeaderBindings.Proofs.Artifact.Slicing
import HeaderBindings.Proofs.Artifact.Storage
import HeaderBindings.Proofs.Artifact.Typedef
import HeaderBindings.Proofs.Capture
import HeaderBindings.Proofs.Catalog
import HeaderBindings.Proofs.Catalog.Binding
import HeaderBindings.Proofs.Catalog.Division
import HeaderBindings.Proofs.Catalog.Entry
import HeaderBindings.Proofs.Catalog.Merging
import HeaderBindings.Proofs.Catalog.Monotone
import HeaderBindings.Proofs.Catalog.Symbols
import HeaderBindings.Proofs.Catalog.Withheld
import HeaderBindings.Proofs.Command.Merging
import HeaderBindings.Proofs.Command.Printing
import HeaderBindings.Proofs.Config
import HeaderBindings.Proofs.Conformance
import HeaderBindings.Proofs.Decimal
import HeaderBindings.Proofs.Decimal.Canonical
import HeaderBindings.Proofs.Declared
import HeaderBindings.Proofs.Document.FirstFault
import HeaderBindings.Proofs.Document.PlatformName
import HeaderBindings.Proofs.Document.RoundTrip
import HeaderBindings.Proofs.Document.Validity
import HeaderBindings.Proofs.Exclusion
import HeaderBindings.Proofs.Exclusion.Extra
import HeaderBindings.Proofs.Exclusion.Stems
import HeaderBindings.Proofs.Export
import HeaderBindings.Proofs.Family
import HeaderBindings.Proofs.IntegerType
import HeaderBindings.Proofs.IntegerType.Narrowest
import HeaderBindings.Proofs.IntegerType.Word
import HeaderBindings.Proofs.Json.Decoding
import HeaderBindings.Proofs.Json.Literal
import HeaderBindings.Proofs.Json.Numeral
import HeaderBindings.Proofs.Json.Reading
import HeaderBindings.Proofs.Json.Slot
import HeaderBindings.Proofs.Layout
import HeaderBindings.Proofs.Merge.Missing
import HeaderBindings.Proofs.Merge.Outcome
import HeaderBindings.Proofs.Merge.Reason
import HeaderBindings.Proofs.Merge.Regrouping
import HeaderBindings.Proofs.Merge.Rereading
import HeaderBindings.Proofs.Merge.Verdict
import HeaderBindings.Proofs.NameMap
import HeaderBindings.Proofs.Platform
import HeaderBindings.Proofs.Text.ByteOrder
import HeaderBindings.Proofs.Text.ConstantCase
import HeaderBindings.Proofs.Text.ConstantName
import HeaderBindings.Proofs.Text.Line
import HeaderBindings.Proofs.Text.Slice
import HeaderBindings.Proofs.Text.Trim
import HeaderBindings.Proofs.Text.UpperCase
import HeaderBindings.Proofs.Verification
import HeaderBindings.Proofs.Verification.Agreement
import HeaderBindings.Proofs.Verification.Continuation
import HeaderBindings.Proofs.Verification.Findings
import HeaderBindings.Proofs.Verification.LineEnding
import HeaderBindings.Proofs.Verification.Width
import HeaderBindings.Text.Blank
import HeaderBindings.Text.Case
import HeaderBindings.Text.CaseTable
import HeaderBindings.Text.Cluster
import HeaderBindings.Text.CodeRange
import HeaderBindings.Text.ConstantCase
import HeaderBindings.Text.Line
import HeaderBindings.Text.Mark
import HeaderBindings.Text.Printable
import HeaderBindings.Text.Quoted
import HeaderBindings.Text.Split
import HeaderBindings.Text.Terminal
import HeaderBindings.Verification
import HeaderBindings.Word
