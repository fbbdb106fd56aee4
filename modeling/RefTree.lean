import RefTree.Command.Arguments
import RefTree.Command.Run
import RefTree.Command.Workspace
import RefTree.Document.Reader
import RefTree.Document.Shown
import RefTree.Document.Token
import RefTree.Document.Value
import RefTree.Document.Writer
import RefTree.Fault
import RefTree.Highlight
import RefTree.Host
import RefTree.Label
import RefTree.Listing
import RefTree.Main
import RefTree.Note
import RefTree.Number.Double
import RefTree.Number.Integer
import RefTree.Number.Shortest
import RefTree.Path
import RefTree.Proofs.Number.DoubleSize
import RefTree.Proofs.Number.IntegerText
import RefTree.Proofs.Outcome
import RefTree.Proofs.Reference.Located
import RefTree.Proofs.Row.Built
import RefTree.Proofs.Row.Grouping
import RefTree.Proofs.Row.Identity
import RefTree.Proofs.Row.Opening
import RefTree.Proofs.Snapshot.Queries
import RefTree.Reference
import RefTree.Reference.Decode
import RefTree.Registry
import RefTree.Row
import RefTree.Row.Build
import RefTree.Row.Expand
import RefTree.Session
import RefTree.Settings
import RefTree.Snapshot
import RefTree.Snapshot.Load
import RefTree.Text.Blank
import RefTree.Text.CaseContext
import RefTree.Text.CodePoint
import RefTree.Text.DecimalDigit
import RefTree.Text.Hex
import RefTree.Text.LowerCase
import RefTree.Text.Printable
import RefTree.Text.Quoted
import RefTree.Text.Utf8
import RefTree.Text.Word
import RefTree.Theme
import RefTree.Tree
import RefTree.Proofs.Caller.Repetition
import RefTree.Proofs.Caller.Walks
import RefTree.Proofs.Row.Grammar
import RefTree.Proofs.Document.Reading
import RefTree.Proofs.Snapshot.ShortIntegers
import RefTree.Proofs.Snapshot.Failure
import RefTree.Proofs.Document.WrittenScalar
import RefTree.Proofs.Document.Contents
import RefTree.Proofs.Document.RoundTrip
import RefTree.Proofs.Settings.LastSave
import RefTree.Proofs.Row.Locality
import RefTree.Proofs.Row.Freshness
import RefTree.Proofs.Listing.Preorder
import RefTree.Proofs.Listing.Depth
import RefTree.Proofs.Snapshot.NotFound
import RefTree.Proofs.Row.NotFound
import RefTree.Proofs.Row.SymbolRecord
import RefTree.Proofs.Listing.Visits
import RefTree.Proofs.Caller.Acyclic
import RefTree.Proofs.Row.FocusIdentity
import RefTree.Proofs.Settings.Loading
import RefTree.Proofs.Row.Infinity
import RefTree.Proofs.Listing.Failures
import RefTree.Proofs.Command.Ending
import RefTree.Proofs.Number.Numeral
import RefTree.Proofs.Document.HeldInteger
import RefTree.Proofs.Row.Partition
import RefTree.Proofs.Snapshot.CategoryNumber
import RefTree.Proofs.Reference.Payload
import RefTree.Proofs.Reference.Spelling
import RefTree.Proofs.Snapshot.Spelling
import RefTree.Proofs.Row.Spelling
import RefTree.Proofs.Row.GroupIds
import RefTree.Proofs.Snapshot.AddedRange
import RefTree.Proofs.Listing.ReferenceText
import RefTree.Proofs.Listing.VisibleText
import RefTree.Proofs.Row.LeafIds
import RefTree.Proofs.Row.TopIds
import RefTree.Proofs.Command.ArgumentOrder
import RefTree.Proofs.Registry.History
import RefTree.Proofs.Row.FileIcon
