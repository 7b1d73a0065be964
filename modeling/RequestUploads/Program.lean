import RequestUploads.Command.Arguments
import RequestUploads.Command.Check
import RequestUploads.Command.Extract

/-!
# The program

A run goes from the arguments and a file tree to what is printed, the exit code and the file tree
afterwards.  The log is opened first, then the arguments are read, then the configuration; a run
that cannot open its log warns and goes on.
-/

namespace RequestUploads.Program

structure Places where
  configHome : String
  stateHome : String
  tempDir : String
deriving DecidableEq, Repr

def name : String := "tapload"

namespace Places

def configDir (places : Places) : String := FilePath.under places.configHome name

def configFile (places : Places) : String := FilePath.under places.configDir "config.toml"

def logDir (places : Places) : String := FilePath.under places.stateHome name

def logFile (places : Places) : String := FilePath.under places.logDir "tapload.log"

end Places

structure Completion where
  exit : Nat
  stdout : String
  stderr : String
  tree : FileTree

def printLines (lines : List String) : String := String.join (lines.map (· ++ "\n"))

/-! ## The log -/

def touch (t : FileTree) (path : String) : Except FileError FileTree :=
  match t.lookup path with
  | .ok (location, .file _) => do
      t.permit .write location
      return t
  | .ok (_, .directory) => .error .isDirectory
  | .error .notFound => t.write path []
  | .error failure => .error failure

def openLog (places : Places) (t : FileTree) : Option FileError × FileTree :=
  match t.makeDirectories (FilePath.ofText places.logDir) with
  | (.error failure, t) => (some failure, t)
  | (.ok (), t) => match touch t places.logFile with
    | .error failure => (some failure, t)
    | .ok t => (none, t)

def logWarning : Option FileError → String
  | none => ""
  | some failure => s!"tapload warning: logging disabled: {failure.message}\n"

/-! ## The configuration -/

def loadConfig (places : Places) (t : FileTree) : Except Command.Failure Config × FileTree :=
  match t.makeDirectories (FilePath.ofText places.configDir) with
  | (.error failure, t) => (.error (.directories failure), t)
  | (.ok (), t) =>
      let loaded := Config.load t places.configFile
      (loaded.result.mapError .config, loaded.tree)

/-! ## Runs -/

/-- What comes of a command: the lines it prints, why it failed if it did, and the tree. -/
abbrev Effect := List String × Option Command.Failure × FileTree

def carryOut (supply : Supply) (places : Places) (config : Config) (t : FileTree) :
    Command → Effect
  | .check options =>
      let (lines, failure) := options.carryOut config
      (lines, failure, t)
  | .extract options => match options.carryOut supply config places.tempDir t with
    | (.error failure, t) => ([], some failure, t)
    | (.ok report, t) => (options.linesOf report, none, t)

def perform (supply : Supply) (places : Places) (t : FileTree) (command : Command) : Effect :=
  match loadConfig places t with
  | (.error failure, t) => ([], some failure, t)
  | (.ok config, t) => carryOut supply places config t command

def stopped (warning : String) (t : FileTree) : Command.Stop → Completion
  | .help topic => ⟨0, topic.text, warning, t⟩
  | .complaint complaint => ⟨2, "", warning ++ complaint.text, t⟩

def completed (warning : String) : Effect → Completion
  | (lines, none, t) => ⟨0, printLines lines, warning, t⟩
  | (lines, some failure, t) =>
      ⟨1, printLines lines, warning ++ s!"tapload error: {failure.message}\n", t⟩

def run (supply : Supply) (places : Places) (t : FileTree) (arguments : List String) :
    Completion :=
  let (failure, t) := openLog places t
  match Command.parse arguments with
  | .error stop => stopped (logWarning failure) t stop
  | .ok command => completed (logWarning failure) (perform supply places t command)

end RequestUploads.Program
