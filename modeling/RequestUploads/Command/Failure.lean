import RequestUploads.Config
import RequestUploads.FileManager

namespace RequestUploads.Command

inductive Failure
  | directories (failure : FileError)
  | config (failure : Config.Failure)
  | badValue (dialect : Dialect) (refusal : UploadError)
  | refused (refusal : UploadError)
  | stagingDir (path : String) (failure : FileError)
  | requestDirectory (root : String) (failure : FileError)
  | place (param : String) (failure : FileError)
  | copy (source : String) (failure : FileError)
  | unopened (label : String) (failure : OpenFailure)
  | unread (failure : FileError)
deriving DecidableEq, Repr

def Failure.message : Failure → String
  | .directories failure | .unread failure => failure.message
  | .config failure => match failure.cause? with
    | some cause => s!"{failure.message}: {cause}"
    | none => failure.message
  | .badValue dialect refusal =>
      s!"invalid UPLOAD value for the {dialect.text} syntax: {refusal.message}"
  | .refused refusal => refusal.message
  | .stagingDir path failure => s!"create {path}: {failure.message}"
  | .requestDirectory root failure =>
      s!"create staging directory in {root}: {failure.message}"
  | .place param failure => s!"stage parameter {param}: {failure.message}"
  | .copy source failure => s!"copy {source}: {failure.message}"
  | .unopened label failure => s!"open upload {label}: {failure.message}"

end RequestUploads.Command
