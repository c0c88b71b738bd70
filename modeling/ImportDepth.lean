import ImportDepth.FileSystem.Update
import ImportDepth.Main
import ImportDepth.Proofs.CommandLine.Accepted
import ImportDepth.Proofs.CommandLine.Check
import ImportDepth.Proofs.CommandLine.Configuration
import ImportDepth.Proofs.CommandLine.Format
import ImportDepth.Proofs.CommandLine.Limit
import ImportDepth.Proofs.Comments
import ImportDepth.Proofs.Config.Normalization
import ImportDepth.Proofs.Dialect
import ImportDepth.Proofs.FileSystem.Reorder
import ImportDepth.Proofs.FileSystem.Update
import ImportDepth.Proofs.Json
import ImportDepth.Proofs.Literal.RawBytes
import ImportDepth.Proofs.Literal.Spelling
import ImportDepth.Proofs.Reference
import ImportDepth.Proofs.Report.Lines
import ImportDepth.Proofs.Report.Message
import ImportDepth.Proofs.Report.Stability
import ImportDepth.Proofs.RequireCallee
import ImportDepth.Proofs.Scan.Locality
import ImportDepth.Proofs.Scan.NestedIgnore
import ImportDepth.Proofs.Scan.OwnDirectory
import ImportDepth.Proofs.Scan.Stability
import ImportDepth.Proofs.Specifier.Climb
import ImportDepth.Proofs.Toml.LongRun
import ImportDepth.Proofs.Utf8.Faithful
import ImportDepth.Proofs.Walk.DocumentOrder
