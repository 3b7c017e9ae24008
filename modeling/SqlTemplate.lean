import SqlTemplate.Block.Shape
import SqlTemplate.Compilation.Bytewise
import SqlTemplate.Compilation.OnePass
import SqlTemplate.Compilation.Replay
import SqlTemplate.Files.Tree
import SqlTemplate.Json.Parts
import SqlTemplate.Main
import SqlTemplate.Sql.Literal
import SqlTemplate.Value.Fault
import SqlTemplate.Value.Mirror
import SqlTemplate.Proofs.FirstOccurrence
import SqlTemplate.Proofs.Numbers
import SqlTemplate.Proofs.Rows
import SqlTemplate.Proofs.Written
import SqlTemplate.Proofs.Filling
import SqlTemplate.Proofs.OnePass
import SqlTemplate.Proofs.StringLiteral
import SqlTemplate.Sql.Row
import SqlTemplate.Proofs.ReadBack
import SqlTemplate.Proofs.Lexemes
import SqlTemplate.Proofs.Variants
import SqlTemplate.Proofs.Containment
import SqlTemplate.Proofs.Rejections
import SqlTemplate.Proofs.Blocks
import SqlTemplate.Proofs.Bytes
import SqlTemplate.Proofs.Decomposition
import SqlTemplate.Proofs.Boundaries
import SqlTemplate.Proofs.Gaps
import SqlTemplate.Proofs.Markers
import SqlTemplate.Proofs.Reordering
import SqlTemplate.Proofs.Trace
import SqlTemplate.Proofs.Bytewise
import SqlTemplate.Proofs.Sequence
import SqlTemplate.Proofs.Cutting
import SqlTemplate.Proofs.Documents
import SqlTemplate.Proofs.Conversion
import SqlTemplate.Proofs.Parameters
import SqlTemplate.Proofs.Nesting
import SqlTemplate.CommandLine.Ending
import SqlTemplate.Proofs.Endings
import SqlTemplate.Proofs.Doubling
import SqlTemplate.Proofs.Identifiers
import SqlTemplate.Proofs.StandardStrings
import SqlTemplate.Proofs.Escaping
import SqlTemplate.Path.Component
import SqlTemplate.Proofs.Ancestors
import SqlTemplate.Proofs.Nearest
import SqlTemplate.Proofs.Equality
import SqlTemplate.Proofs.Interchange
import SqlTemplate.Proofs.Columns
