import RequestUploads.Declaration.Split
import RequestUploads.FileManager
import RequestUploads.Upload.Resolve

/-!
# Extracting the uploads of a request

The parameter `UPLOAD`, in any case, declares uploads.  `extraction` reads all declarations of a
request before anything is changed.  If there are uploads, they take the place of the
declarations, and files that no upload refers to are dropped from the parameters and deleted.
`extractUploads` carries this out with a file manager.
-/

namespace RequestUploads

def uploadParam : String := "UPLOAD"

def isReserved (name : String) : Bool := Ascii.sameIgnoringCase name.toList uploadParam.toList

/-! ## Gathering -/

/-- What the reserved parameters hold: uploads, and files that stand there themselves. -/
structure Gathered where
  uploads : List Upload
  stray : List StagedFile

instance : EmptyCollection Gathered := ⟨⟨[], []⟩⟩

instance : Append Gathered := ⟨fun a b => ⟨a.uploads ++ b.uploads, a.stray ++ b.stray⟩⟩

def declaredUploads (dialect : Dialect) (params : Params) (raw : String) :
    Except UploadError (List Upload) :=
  if Blank.isBlankText raw.toList then .ok []
  else do
    let declarations ← Declaration.split dialect raw
    declarations.mapM fun declaration => Upload.parse declaration params

mutual

def gather (dialect : Dialect) (params : Params) : Value → Except UploadError Gathered
  | .null => .ok ∅
  | .text raw => (declaredUploads dialect params raw).map (⟨·, []⟩)
  | .file file => .ok ⟨[], [file]⟩
  | .upload upload => .ok ⟨[upload], []⟩
  | .list items => gatherAll dialect params items

def gatherAll (dialect : Dialect) (params : Params) : List Value → Except UploadError Gathered
  | [] => .ok ∅
  | value :: values => do
      let first ← gather dialect params value
      let rest ← gatherAll dialect params values
      return first ++ rest

end

def Params.reservedValues (params : Params) : List Value :=
  (params.entries.filter fun entry => isReserved entry.1).map (·.2)

/-! ## Pruning -/

def referenced (uploads : List Upload) : List String :=
  uploads.filterMap fun upload => upload.file?.map (·.param)

mutual

/-- A value without nulls, without files of parameters that are not `used` and without lists left
empty, and the files dropped from it. -/
def prune (used : List String) : Value → Option Value × List StagedFile
  | .null => (none, [])
  | .text content => (some (.text content), [])
  | .file file => if file.param ∈ used then (some (.file file), []) else (none, [file])
  | .upload upload => (some (.upload upload), [])
  | .list items =>
      let (left, dropped) := pruneAll used items
      (if left.isEmpty then none else some (.list left), dropped)

def pruneAll (used : List String) : List Value → List Value × List StagedFile
  | [] => ([], [])
  | value :: values =>
      let (left, dropped) := prune used value
      let (others, later) := pruneAll used values
      (left.toList ++ others, dropped ++ later)

end

def pruneEntries (used : List String) :
    List (String × Value) → List (String × Value) × List StagedFile
  | [] => ([], [])
  | (name, value) :: entries =>
      let (left, dropped) := prune used value
      let (others, later) := pruneEntries used entries
      ((left.map ((name, ·))).toList ++ others, dropped ++ later)

/-! ## Extraction -/

/-- What an extraction finds and does: the uploads, the parameters afterwards, the files to
delete in order, and what is reported at the end. -/
structure Extraction where
  uploads : List Upload
  params : Params
  deletions : List StagedFile
  closing : List Event

def Extraction.ofNone (params : Params) (stray : List StagedFile) : Extraction where
  uploads := []
  params := params.retain fun name _ => !isReserved name
  deletions := []
  closing :=
    .nothingDeclared :: (if stray.isEmpty then [] else [.strayDropped (stray.map (·.param))])

def Extraction.ofGathered (params : Params) (gathered : Gathered) : Extraction :=
  let used := referenced gathered.uploads
  let others := params.retain fun name _ => !isReserved name
  let (left, dropped) := pruneEntries used others.entries
  { uploads := gathered.uploads
    params := ((Params.collect left).insert uploadParam (.list (gathered.uploads.map .upload))).2
    deletions := gathered.stray.filter (fun file => decide (file.param ∉ used)) ++ dropped
    closing :=
      [.extracted gathered.uploads.length (gathered.uploads.filter (!·.isRemote)).length] }

def extraction (dialect : Dialect) (params : Params) : Except UploadError Extraction :=
  if params.names.any isReserved then do
    let gathered ← gatherAll dialect params params.reservedValues
    return if gathered.uploads.isEmpty then .ofNone params gathered.stray
      else .ofGathered params gathered
  else .ok ⟨[], params, [], []⟩

/-- What comes of extracting the uploads of a request: the uploads or the refusal, the parameters
afterwards, the files whose deletion was tried, what was reported, and the state of the file
manager. -/
structure Outcome (σ : Type) where
  result : Except UploadError (List Upload)
  params : Params
  attempts : List StagedFile
  events : List Event
  state : σ

def extractUploads {σ : Type} (dialect : Dialect) (files : FileManager σ) (params : Params)
    (state : σ) : Outcome σ :=
  match extraction dialect params with
  | .error refusal => ⟨.error refusal, params, [], [], state⟩
  | .ok found =>
      let (events, state) := files.discardAll found.deletions state
      ⟨.ok found.uploads, found.params, found.deletions, events ++ found.closing, state⟩

end RequestUploads
