import RequestUploads.Command.Basic
import RequestUploads.Command.Failure
import RequestUploads.Report
import RequestUploads.Staging

namespace RequestUploads

namespace Command

def textParams (texts : List (String × String)) : Params :=
  Params.collect (texts.map fun (name, content) => (name, .text content))

def stageAll (directory : RequestDirectory) (supply : Supply) (params : Params)
    (t : FileTree) : List (String × String) → Except Failure (Params × FileTree)
  | [] => .ok (params, t)
  | (name, source) :: files => match directory.stage supply t name source with
    | .error (.place failure) => .error (.place name failure)
    | .error (.copy failure) => .error (.copy source failure)
    | .ok (staged, t) => stageAll directory supply (params.append name (.file staged)) t files

def managerOf (config : Config) : FileManager FileTree :=
  if config.deleteUnreferenced then .disk else .keep

def reportUpload (digest : Bool) (files : FileManager FileTree) (t : FileTree) (u : Upload) :
    Except Failure UploadReport :=
  let report := UploadReport.ofUpload u
  if digest ∧ ¬u.isRemote then
    match u.openContent files t with
    | .error failure => .error (.unopened u.label failure)
    | .ok reads => match ContentDigest.digest reads with
      | .error failure => .error (.unread failure)
      | .ok digest => .ok (report.withDigest digest)
  else .ok report

def reportOutcome (dialect : Dialect) (digest : Bool) (files : FileManager FileTree)
    (outcome : Outcome FileTree) : Except Failure Report :=
  match outcome.result with
  | .error refusal => .error (.refused refusal)
  | .ok uploads => do
      let uploads ← uploads.mapM (reportUpload digest files outcome.state)
      return { dialect, uploads, remaining := outcome.params.names }

def extractStaged (supply : Supply) (config : Config) (options : ExtractOptions)
    (directory : RequestDirectory) (t : FileTree) : Except Failure Report × FileTree :=
  match stageAll directory supply (textParams options.params) t options.files with
  | .error failure => (.error failure, t)
  | .ok (params, t) =>
      let dialect := options.dialect.getD config.dialect
      let files := managerOf config
      let outcome := extractUploads dialect files params t
      (reportOutcome dialect options.digest files outcome, outcome.state)

def extractBelow (supply : Supply) (config : Config) (options : ExtractOptions)
    (root : String) (t : FileTree) : Except Failure Report × FileTree :=
  match RequestDirectory.make supply t root with
  | .error failure => (.error (.requestDirectory root failure), t)
  | .ok (directory, t) =>
      let (result, t) := extractStaged supply config options directory t
      (result, directory.remove t)

end Command

namespace ExtractOptions

def carryOut (options : ExtractOptions) (supply : Supply) (config : Config)
    (tempDir : String) (t : FileTree) : Except Command.Failure Report × FileTree :=
  match config.stagingDir with
  | none => Command.extractBelow supply config options (t.absolutePath tempDir) t
  | some path => match t.makeDirectories (FilePath.ofText path) with
    | (.error failure, t) => (.error (.stagingDir path failure), t)
    | (.ok (), t) => Command.extractBelow supply config options (t.absolutePath path) t

def linesOf (options : ExtractOptions) (report : Report) : List String :=
  if options.json then [report.json.pretty] else report.lines

end ExtractOptions

end RequestUploads
