import RequestUploads.Upload.Basic

namespace RequestUploads

inductive Level
  | debug
  | info
  | warn
deriving DecidableEq, Repr

def Level.text : Level → String
  | .debug => "DEBUG"
  | .info => "INFO"
  | .warn => "WARN"

inductive Event
  | nothingDeclared
  | strayDropped (params : List String)
  | deleted (file : StagedFile)
  | notDeleted (file : StagedFile) (reason : String)
  | kept (location : String)
  | extracted (uploads inline : Nat)
  | configCreated (path : String)
deriving DecidableEq, Repr

namespace Event

def level : Event → Level
  | .notDeleted _ _ => .warn
  | .configCreated _ => .info
  | _ => .debug

def message : Event → String
  | .nothingDeclared => "UPLOAD parameter present but declares no upload"
  | .strayDropped params =>
      let count := params.length
      let names := ", ".intercalate params
      s!"dropped {count} inline file(s) carried by UPLOAD without deleting them: {names}"
  | .deleted file => s!"deleted unreferenced upload \"{file.param}\" at {file.location}"
  | .notDeleted file reason =>
      s!"could not delete unreferenced upload \"{file.param}\" at {file.location}: {reason}"
  | .kept location => s!"keeping staged file {location}"
  | .extracted uploads inline => s!"extracted {uploads} upload(s) ({inline} inline)"
  | .configCreated path => s!"created default config at {path}"

end Event

end RequestUploads
