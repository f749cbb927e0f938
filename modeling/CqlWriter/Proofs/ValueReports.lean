import Mathlib
import CqlWriter.Proofs.QuotedNames
import CqlWriter.Proofs.RenderedFormats
import CqlWriter.Proofs.ValueEntries

/-!
# Reports about inserted values

The values of the insert statements of documents are listed in reports. A report tells its statement
by the file and by the number among all statements of the document, so it can be found again in the
array that the same files are rendered to. The name of its table stands there too, up to bytes that
belong to no character.
-/

namespace CqlWriter

namespace Insert

open ValueMap

variable {i : Insert}

end Insert

namespace Command

namespace InsertReport

end InsertReport

/-! ### The reports about documents -/

variable {s t : Session} {files : List Text} {format : OutputFormat}

end Command

end CqlWriter
