import NamespaceScan.Log.Template
import NamespaceScan.Main
import NamespaceScan.Proofs.Assembly
import NamespaceScan.Proofs.LiteralRoundTrip
import NamespaceScan.Proofs.NestedCalls
import NamespaceScan.Proofs.Recognition
import NamespaceScan.Proofs.Registration
import NamespaceScan.Proofs.Session
import NamespaceScan.Proofs.Strictness
import NamespaceScan.Proofs.Entry
import NamespaceScan.Proofs.Names
import NamespaceScan.Proofs.Lookup
import NamespaceScan.Proofs.Resolution
import NamespaceScan.Proofs.ScanOrder
import NamespaceScan.Proofs.Reading
import NamespaceScan.Proofs.Collection
import NamespaceScan.Proofs.ScanProblems
import NamespaceScan.Proofs.Writing
import NamespaceScan.Proofs.ReportFile
import NamespaceScan.Proofs.ReportCharacters
import NamespaceScan.Proofs.PrintedReport
import NamespaceScan.Proofs.Loading
import NamespaceScan.Proofs.DocumentText
import NamespaceScan.Proofs.Spelling
import NamespaceScan.Proofs.RegisteredPath
import NamespaceScan.Proofs.PhysicalLines
import NamespaceScan.Proofs.Comments
import NamespaceScan.Proofs.Parentheses
import NamespaceScan.Proofs.MissingCallee
import NamespaceScan.Proofs.ErrorLines
import NamespaceScan.Proofs.CollectedPaths
import NamespaceScan.Proofs.DistinctNames
import NamespaceScan.Proofs.Discovery
import NamespaceScan.Proofs.Utf8RoundTrip
import NamespaceScan.Proofs.ResolvedPlaces
import NamespaceScan.Proofs.WrittenFile
import NamespaceScan.Proofs.ReportedPath
import NamespaceScan.Proofs.SectionChecks
import NamespaceScan.Proofs.FailedWriting
import NamespaceScan.Proofs.NamedSettings
import NamespaceScan.Proofs.NameChain
import NamespaceScan.Proofs.Origins
import NamespaceScan.Proofs.ReadRanges
import NamespaceScan.Proofs.Handlers
