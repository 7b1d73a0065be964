import RequestUploads.Digest.Content
import RequestUploads.Event

namespace RequestUploads

inductive OpenFailure
  | unsupportedScheme (scheme : String)
  | file (failure : FileError)
deriving DecidableEq, Repr

def OpenFailure.message : OpenFailure → String
  | .unsupportedScheme scheme => s!"unsupported URI scheme: \"{scheme}\""
  | .file failure => s!"cannot open upload content: {failure.message}"

/-- What comes of a deletion: the reason why it failed, if it did, and what the manager reports
itself. -/
structure Deletion where
  failure : Option String
  events : List Event
deriving DecidableEq, Repr

def Deletion.done : Deletion := ⟨none, []⟩

def refuseRemote (uri : Uri) : Except OpenFailure (List Read) :=
  .error (.unsupportedScheme uri.scheme)

structure FileManager (σ : Type) where
  delete : StagedFile → σ → Deletion × σ
  openRemote : Uri → Except OpenFailure (List Read) := refuseRemote

namespace FileManager

variable {σ : Type}

def outcome (file : StagedFile) (deletion : Deletion) : Event :=
  match deletion.failure with
  | none => .deleted file
  | some reason => .notDeleted file reason

def discardAll (files : FileManager σ) : List StagedFile → σ → List Event × σ
  | [], state => ([], state)
  | file :: rest, state =>
      let (deletion, state) := files.delete file state
      let (events, state) := discardAll files rest state
      (deletion.events ++ outcome file deletion :: events, state)

def keep : FileManager σ where
  delete file state := (⟨none, [.kept file.location]⟩, state)

def disk : FileManager FileTree where
  delete file tree := match tree.remove file.location with
    | .ok tree => (.done, tree)
    | .error failure => (⟨some failure.message, []⟩, tree)

end FileManager

def Upload.openContent {σ : Type} (u : Upload) (files : FileManager σ) (tree : FileTree) :
    Except OpenFailure (List Read) :=
  match u.source with
  | .inline file => (tree.openFile file.location).mapError .file
  | .remote uri => files.openRemote uri

end RequestUploads
