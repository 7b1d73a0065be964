import RequestUploads.Digest.Content
import RequestUploads.Extraction
import RequestUploads.Json

namespace RequestUploads

structure UploadReport where
  label : String
  target : String
  isRemote : Bool
  fileName : Option String
  mimeType : Option String
  length : Option Nat
  sha256 : Option String
deriving DecidableEq, Repr

structure Report where
  dialect : Dialect
  uploads : List UploadReport
  remaining : List String
deriving DecidableEq, Repr

namespace UploadReport

def ofUpload (u : Upload) : UploadReport where
  label := u.label
  target := u.targetText
  isRemote := u.isRemote
  fileName := u.file?.bind (·.fileName)
  mimeType := u.file?.bind (·.mimeType)
  length := u.file?.bind (·.length)
  sha256 := none

def withDigest (report : UploadReport) (digest : ContentDigest) : UploadReport :=
  { report with length := some digest.length, sha256 := some digest.sha256 }

def lines (report : UploadReport) : List String :=
  let kind := if report.isRemote then "remote" else "inline"
  let file := match report.fileName with
    | some name =>
        let mimeType := report.mimeType.getD "unknown type"
        [s!"    file {name} ({mimeType})"]
    | none => []
  let digest := match report.sha256 with
    | some sha256 =>
        let length := report.length.getD 0
        [s!"    {length} bytes, sha256 {sha256}"]
    | none => []
  s!"  {report.label} [{kind}] {report.target}" :: file ++ digest

def field? (name : String) (value : Option Json) : List (String × Json) :=
  (value.map fun value => (name, value)).toList

def json (report : UploadReport) : Json :=
  .object (
    [("label", .text report.label), ("target", .text report.target),
      ("by_reference", .flag report.isRemote)]
    ++ field? "file_name" (report.fileName.map .text)
    ++ field? "mime_type" (report.mimeType.map .text)
    ++ field? "length" (report.length.map .number)
    ++ field? "sha256" (report.sha256.map .text))

end UploadReport

namespace Report

def lines (report : Report) : List String :=
  let names := ", ".intercalate report.remaining
  s!"{report.uploads.length} upload(s) ({report.dialect.text} syntax)"
    :: report.uploads.flatMap UploadReport.lines ++ [s!"remaining parameters: {names}"]

def json (report : Report) : Json :=
  .object [("syntax", .text report.dialect.text),
    ("uploads", .list (report.uploads.map UploadReport.json)),
    ("remaining_params", .list (report.remaining.map .text))]

end Report

end RequestUploads
