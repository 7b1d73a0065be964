import RequestUploads.Uri.Failure

namespace RequestUploads

inductive Fault
  | severalUploads
  | noDeclaration
  | noPair
  | badLabel
  | badTarget
  | notUri
  | badUri (failure : Uri.Failure)
deriving DecidableEq, Repr

def Fault.message : Fault → String
  | .severalUploads =>
      "several uploads in one UPLOAD parameter are not allowed with the DALI syntax"
  | .noDeclaration => "wrong DALI syntax for the parameter UPLOAD"
  | .noPair => "an upload declaration must be a pair \"\x7blabel\x7d,\x7bURI\x7d\""
  | .badLabel => "wrong uploaded item name syntax (expected [a-zA-Z][a-zA-Z0-9_]*)"
  | .badTarget =>
      "bad URI syntax (expected \"<scheme>:...\" with <scheme> = [a-zA-Z][a-zA-Z0-9+.-]*)"
  | .notUri => "bad URI syntax"
  | .badUri failure => s!"incorrect URI syntax ({failure.message})"

inductive UploadError
  | malformed (input : String) (fault : Fault)
  | missingFile (name : String)
  | notFile (name : String)
  | forbiddenScheme (label scheme : String)
deriving DecidableEq, Repr

namespace UploadError

def message : UploadError → String
  | .malformed input fault => s!"{fault.message}: \"{input}\""
  | .missingFile name => s!"missing file parameter to upload: \"{name}\""
  | .notFile name => s!"incorrect parameter type \"{name}\": a file was expected"
  | .forbiddenScheme label scheme =>
      s!"wrong URI scheme in upload \"{label}\": \"{scheme}\" is forbidden"

/-- The status of the response to a request that is refused: every refusal is the client's
fault. -/
def status (_ : UploadError) : Nat := 400

end UploadError

end RequestUploads
