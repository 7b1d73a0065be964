import RequestUploads.Error
import RequestUploads.Uri.Parse

namespace RequestUploads

/-- A file that came with the request: the parameter that carried it, where it is staged, and what
the client announced. -/
structure StagedFile where
  param : String
  location : String
  fileName : Option String
  mimeType : Option String
  length : Option Nat
deriving DecidableEq, Repr

inductive Source
  | inline (file : StagedFile)
  | remote (uri : Uri)
deriving DecidableEq, Repr

structure Upload where
  label : String
  source : Source
deriving DecidableEq, Repr

namespace Upload

def file? (u : Upload) : Option StagedFile :=
  match u.source with
  | .inline file => some file
  | .remote _ => none

def uri? (u : Upload) : Option Uri :=
  match u.source with
  | .inline _ => none
  | .remote uri => some uri

def isRemote (u : Upload) : Bool := u.file?.isNone

def ofFile (label : Option String) (file : StagedFile) : Upload :=
  ⟨label.getD file.param, .inline file⟩

def reservedSchemes : List String := ["param", "file"]

def ofUri (label : Option String) (uri : Uri) : Except UploadError Upload :=
  let label := label.getD uri.text
  if uri.scheme ∈ reservedSchemes then .error (.forbiddenScheme label uri.scheme)
  else .ok ⟨label, .remote uri⟩

theorem ofUri_ok_iff {label : Option String} {uri : Uri} {u : Upload} :
    ofUri label uri = .ok u ↔
      uri.scheme ∉ reservedSchemes ∧ u = ⟨label.getD uri.text, .remote uri⟩ := by
  unfold ofUri
  by_cases reserved : uri.scheme ∈ reservedSchemes <;> simp [reserved, eq_comm]

def targetText (u : Upload) : String :=
  match u.source with
  | .inline file => "param:" ++ file.param
  | .remote uri => uri.text

def text (u : Upload) : String := u.label ++ "," ++ u.targetText

end Upload

end RequestUploads
