import RequestUploads.MediaType
import RequestUploads.Program

namespace RequestUploads.Program

/-! ## Places -/

def pathAt (location : Location) : String := "/" ++ "/".intercalate location

def passed (here : Location) : List String → List Location
  | [] => [here]
  | name :: names =>
      let next := if name = "." then here else if name = ".." then here.dropLast
        else here ++ [name]
      here :: passed next names

def passedBy (t : FileTree) (path : String) : List Location :=
  let p := FilePath.ofText path
  passed (t.start p) p.names

def sources (arguments : List String) : List String :=
  match Command.parse arguments with
  | .ok (.extract options) => options.files.map (·.2)
  | _ => []

def stagingDirs (places : Places) (t : FileTree) : List String :=
  match loadConfig places t with
  | (.ok config, _) => config.stagingDir.toList
  | (.error _, _) => []

def homeOf (named : Option String) (usual : String) : String :=
  match named with
  | some path => if (FilePath.ofText path).absolute then path else usual
  | none => usual

def findPlaces : IO Places := do
  let home := (← IO.getEnv "HOME").getD "/"
  return {
    configHome := homeOf (← IO.getEnv "XDG_CONFIG_HOME") (FilePath.under home ".config"),
    stateHome := homeOf (← IO.getEnv "XDG_STATE_HOME") (FilePath.under home ".local/state"),
    tempDir := (← IO.getEnv "TMPDIR").getD "/tmp" }

/-! ## The disk -/

/-- Loads what is at a location; a file that must not be read is there without its content. -/
def loadAt (t : FileTree) (location : Location) : IO FileTree := do
  try
    return t.put location (.file (← IO.FS.readBinFile (pathAt location)).toList)
  catch
    | .inappropriateType _ 21 _ => return t.put location .directory
    | .permissionDenied _ _ _ =>
        let refusal := ⟨.read, location, "Permission denied (os error 13)"⟩
        return { t.put location (.file []) with refusals := refusal :: t.refusals }
    | _ => return t

def load (t : FileTree) (paths : List String) : IO FileTree :=
  (paths.flatMap (passedBy t)).eraseDups.foldlM loadAt t

/-! ## Temporary names -/

def drawNames : Nat → IO (List TempName)
  | 0 => return []
  | count + 1 => do
      let name := TempName.ofText? (toString (← IO.rand 0 999999999999))
      return name.toList ++ (← drawNames count)

def save (before after : FileTree) : IO Unit := do
  for (location, node) in after.nodes.reverse do
    unless before.get? location = some node do
      match node with
      | .directory => IO.FS.createDirAll (pathAt location)
      | .file content => IO.FS.writeBinFile (pathAt location) ⟨content.toArray⟩
  for (location, _) in before.nodes do
    if (after.get? location).isNone then
      IO.FS.removeFile (pathAt location)

end RequestUploads.Program

open RequestUploads RequestUploads.Program

def main (arguments : List String) : IO UInt32 := do
  let places ← findPlaces
  let working := (FilePath.ofText (← IO.currentDir).toString).names
  let here ← load ⟨[], working, []⟩ [".", places.configFile, places.logFile, places.tempDir]
  let before ← load here (stagingDirs places here ++ sources arguments)
  let drawn ← drawNames (arguments.length + 16)
  let done := run ⟨drawn, drawn, MediaType.ofPath?⟩ places before arguments
  save before done.tree
  IO.print done.stdout
  IO.eprint done.stderr
  return done.exit.toUInt32
