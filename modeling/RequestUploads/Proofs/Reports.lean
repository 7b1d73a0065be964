import Mathlib.Data.List.Forall2
import Mathlib.Data.List.Infix
import RequestUploads.Program

namespace RequestUploads

namespace Json

end Json

/-! ## Uploads -/

namespace UploadReport

end UploadReport

/-! ## Reports -/

namespace Report

end Report

end RequestUploads
