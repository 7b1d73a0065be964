import RequestUploads.Declaration.Pair
import RequestUploads.Params.Basic
import RequestUploads.Text.Blank

namespace RequestUploads

def paramMarker : List Char := "param:".toList

namespace Params

def lastFile? (items : List Value) : Option StagedFile := items.reverse.findSome? Value.file?

def stagedFile (params : Params) (name : String) : Except UploadError StagedFile :=
  match params.get? name with
  | none | some .null => .error (.missingFile name)
  | some (.file file) => .ok file
  | some (.list items) => match lastFile? items with
    | some file => .ok file
    | none => .error (.missingFile name)
  | some (.text _) | some (.upload _) => .error (.notFile name)

end Params

namespace Upload

def resolveUri (label : Option String) (target : String) : Except UploadError Upload :=
  let written := Blank.trim target.toList
  match Scheme.split? written with
  | none => .error (.malformed (String.ofList written) .notUri)
  | some (scheme, rest) =>
      if rest = [] ∨ '\n' ∈ rest then .error (.malformed (String.ofList written) .notUri)
      else if Ascii.sameIgnoringCase scheme "file".toList then
        .error (.forbiddenScheme (label.getD (String.ofList written)) "file")
      else
        let decoded := Percent.decode written
        match Uri.parse decoded with
        | .error failure => .error (.malformed (String.ofList decoded) (.badUri failure))
        | .ok uri => ofUri label uri

def resolve (label : Option String) (target : String) (params : Params) :
    Except UploadError Upload :=
  match Ascii.dropIgnoringCase? paramMarker target.toList with
  | some name => (params.stagedFile (String.ofList name)).map (ofFile label)
  | none => resolveUri label target

def parse (declaration : String) (params : Params) : Except UploadError Upload := do
  let (label, target) ← Declaration.pair declaration
  resolve (some label) target params

end Upload

end RequestUploads
