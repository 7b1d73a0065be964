import RequestUploads.Upload.Basic
import RequestUploads.FileTree.Basic

namespace RequestUploads

/-- What makes a temporary name differ from others: letters and digits. -/
structure TempName where
  text : String
  plain : text.toList.all Char.isAlphanum = true
deriving DecidableEq, Repr

def TempName.ofText? (text : String) : Option TempName :=
  if plain : text.toList.all Char.isAlphanum = true then some ⟨text, plain⟩ else none

/-- What staging takes from outside: the names that are drawn, in turn, for directories of requests
and for copies, and the media type that is guessed from a path. -/
structure Supply where
  directories : List TempName
  copies : List TempName
  mediaType : String → Option String

namespace FileTree

def freeName (t : FileTree) (directory : Location) (before after : String)
    (drawn : List TempName) : Except FileError String :=
  let names := drawn.map fun name => before ++ name.text ++ after
  match names.find? fun name => (t.get? (directory ++ [name])).isNone with
  | some name => .ok name
  | none => .error (.other "too many temporary files exist")

def workingPath (t : FileTree) : String := "/" ++ "/".intercalate t.working

def absolutePath (t : FileTree) (path : String) : String :=
  if (FilePath.ofText path).absolute then path else FilePath.under t.workingPath path

end FileTree

structure RequestDirectory where
  path : String
  location : Location
deriving DecidableEq, Repr

inductive StagingFailure
  | place (failure : FileError)
  | copy (failure : FileError)
deriving DecidableEq, Repr

namespace RequestDirectory

def make (supply : Supply) (t : FileTree) (root : String) :
    Except FileError (RequestDirectory × FileTree) := do
  let name ← t.freeName (← t.locate root) "request-" "" supply.directories
  let path := FilePath.under root name
  let location ← t.locate path
  t.permit .write location
  return (⟨path, location⟩, t.put location .directory)

/-- Removes the directory of a request with all that is in it.  The guard of a temporary directory
is taken to succeed. -/
def remove (directory : RequestDirectory) (t : FileTree) : FileTree :=
  t.dropAll directory.location

def newCopy (directory : RequestDirectory) (supply : Supply) (t : FileTree) :
    Except FileError String := do
  let name ← t.freeName directory.location "upload-" ".bin" supply.copies
  let path := FilePath.under directory.path name
  t.permit .write (← t.locate path)
  return path

/-- The content of a regular file; opening comes before looking what it is. -/
def contentOf (t : FileTree) (source : String) : Except FileError (List UInt8) := do
  let (location, node) ← t.lookup source
  t.permit .read location
  match node with
  | .file content => .ok content
  | .directory => .error .notRegular

def stage (directory : RequestDirectory) (supply : Supply) (t : FileTree)
    (param source : String) : Except StagingFailure (StagedFile × FileTree) := do
  let copy ← (directory.newCopy supply t).mapError .place
  let content ← (contentOf t source).mapError .copy
  let t ← (t.write copy content).mapError .copy
  return ({ param, location := copy, fileName := FilePath.lastName? source,
            mimeType := supply.mediaType source, length := some content.length }, t)

end RequestDirectory

end RequestUploads
