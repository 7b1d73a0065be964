import RequestUploads.Dialect
import RequestUploads.Event
import RequestUploads.FileTree.Basic
import RequestUploads.Toml.Document

namespace RequestUploads

/-- The settings: the dialect when none is asked for, the directory where files are staged, and
whether files that no upload refers to are deleted. -/
structure Config where
  dialect : Dialect := .tap
  stagingDir : Option String := none
  deleteUnreferenced : Bool := true
deriving DecidableEq, Repr

namespace Config

/-! ## As text -/

def line (key : String) (value : List Char) : List Char :=
  key.toList ++ " = ".toList ++ value ++ ['\n']

def text (config : Config) : List Char :=
  line "syntax" (Toml.Quoted.write config.dialect.text.toList)
    ++ (match config.stagingDir with
      | some directory => line "staging_dir" (Toml.Quoted.write directory.toList)
      | none => [])
    ++ line "delete_unreferenced" (if config.deleteUnreferenced then "true" else "false").toList

def isEmptyItem : Toml.Item → Bool
  | .array [] | .inlineTable [] | .table _ [] => true
  | _ => false

/-- The dialect that an item names, as a text or as the only key of a table without content. -/
def dialectOf? : Toml.Item → Option Dialect
  | .text name => Dialect.named? name
  | .inlineTable [(name, item)] | .table _ [(name, item)] =>
      if isEmptyItem item then Dialect.named? name else none
  | _ => none

def textOf? : Toml.Item → Option String
  | .text content => some content
  | _ => none

def flagOf? : Toml.Item → Option Bool
  | .flag value => some value
  | _ => none

/-- A setting with a default; one that is there must be of its kind. -/
def setting? {α : Type} (entries : Toml.Entries) (key : String) (read : Toml.Item → Option α)
    (default : α) : Option α :=
  match Toml.Entries.find? key entries with
  | some item => read item
  | none => some default

def ofEntries? (entries : Toml.Entries) : Option Config := do
  let dialect ← setting? entries "syntax" dialectOf? default
  let stagingDir ← setting? entries "staging_dir" (fun item => (textOf? item).map some) none
  let deleteUnreferenced ← setting? entries "delete_unreferenced" flagOf? true
  return { dialect, stagingDir, deleteUnreferenced }

def ofText? (s : List Char) : Option Config := (Toml.parse s).bind ofEntries?

/-! ## In a file -/

inductive Failure
  | read (path : String) (failure : FileError)
  | malformed (path : String)
  | write (path : String) (failure : FileError)
  | directories (failure : FileError)
deriving DecidableEq, Repr

def Failure.message : Failure → String
  | .read path _ => s!"read {path}"
  | .malformed path => s!"parse {path}"
  | .write path _ => s!"write {path}"
  | .directories failure => failure.message

def Failure.cause? : Failure → Option String
  | .read _ failure | .write _ failure => some failure.message
  | .malformed _ => some "TOML parse error"
  | .directories _ => none

structure Loaded where
  result : Except Failure Config
  tree : FileTree
  events : List Event

def create (t : FileTree) (path : String) : Loaded :=
  match t.makeParents path with
  | (.error failure, t) => ⟨.error (.directories failure), t, []⟩
  | (.ok (), t) => match t.write path (Utf8.encode (text {})) with
    | .error failure => ⟨.error (.write path failure), t, []⟩
    | .ok t => ⟨.ok {}, t, [.configCreated path]⟩

def readAt (t : FileTree) (path : String) : Except Failure Config :=
  match t.read path with
  | .error failure => .error (.read path failure)
  | .ok content => match Utf8.decode? content with
    | none => .error (.read path .notUtf8)
    | some s => match ofText? s with
      | none => .error (.malformed path)
      | some config => .ok config

def load (t : FileTree) (path : String) : Loaded :=
  if t.hasPath path then ⟨readAt t path, t, []⟩ else create t path

end Config

end RequestUploads
