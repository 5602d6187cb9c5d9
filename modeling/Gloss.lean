import Gloss.Index.Concurrent
import Gloss.Main
import Gloss.Proofs.Agreement
import Gloss.Proofs.Sections
import Gloss.Proofs.Selection
import Gloss.Proofs.History
import Gloss.Proofs.Leftmost
import Gloss.Proofs.Concurrent
import Gloss.Proofs.Path
import Gloss.Proofs.Wildcard
import Gloss.Proofs.Disk
import Gloss.Proofs.Glob
import Gloss.Proofs.NoteFiles
import Gloss.Proofs.Cursor
import Gloss.Proofs.RepositoryRoot
import Gloss.Proofs.Load
import Gloss.Proofs.Layers
import Gloss.Proofs.Commands
import Gloss.Proofs.Listing
import Gloss.Proofs.Position
import Gloss.Proofs.OpenBracket
import Gloss.Proofs.Utf8
import Gloss.Proofs.NoteText
import Gloss.Proofs.NoteIndex
import Gloss.Proofs.Conversion
import Gloss.Proofs.LineTable
import Gloss.Proofs.Marks
import Gloss.Proofs.LineBreak.Notes
import Gloss.Proofs.LineBreak.Document
import Gloss.Proofs.DefinitionLine
import Gloss.Proofs.Additivity
import Gloss.Proofs.Validation
import Gloss.Proofs.MalformedFile
import Gloss.Proofs.Packing
import Gloss.Proofs.Provenance
import Gloss.Proofs.Subtree
import Gloss.Proofs.CodeBlock
