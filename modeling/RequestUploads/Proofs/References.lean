import RequestUploads.Proofs.Results
import RequestUploads.Upload.Resolve

namespace RequestUploads

theorem eq_file_of_file? {value : Value} {file : StagedFile} (isFile : value.file? = some file) :
    value = .file file := by
  cases value with
  | file found => rw [Option.some.inj isFile]
  | null | text _ | upload _ | list _ => cases isFile

theorem mem_of_lastFile? {items : List Value} {file : StagedFile}
    (last : Params.lastFile? items = some file) : .file file ∈ items := by
  obtain ⟨item, member, isFile⟩ := List.exists_of_findSome?_eq_some last
  rw [← eq_file_of_file? isFile]
  exact List.mem_reverse.1 member

theorem Params.stagedFile_eq_ok_iff {params : Params} {name : String} {file : StagedFile} :
    params.stagedFile name = .ok file ↔
      params.get? name = some (.file file) ∨
        ∃ items, params.get? name = some (.list items) ∧ lastFile? items = some file := by
  unfold Params.stagedFile
  cases params.get? name with
  | none => simp
  | some value =>
      cases value with
      | null | text _ | upload _ | file _ => simp
      | list items => cases last : lastFile? items <;> simp [last]

theorem Upload.resolve_eq_ok_iff {params : Params} {label : Option String} {target : String}
    {upload : Upload} :
    Upload.resolve label target params = .ok upload ↔
      (∃ name file, Ascii.dropIgnoringCase? paramMarker target.toList = some name ∧
        params.stagedFile (String.ofList name) = .ok file ∧ upload = Upload.ofFile label file) ∨
      (Ascii.dropIgnoringCase? paramMarker target.toList = none ∧
        Upload.resolveUri label target = .ok upload) := by
  unfold Upload.resolve
  cases marked : Ascii.dropIgnoringCase? paramMarker target.toList with
  | none => simp
  | some name =>
      cases found : params.stagedFile (String.ofList name) with
      | error refusal => simp [found]
      | ok file => simp [found, eq_comm]

theorem Upload.parse_eq_ok_iff {declaration : String} {params : Params} {upload : Upload} :
    Upload.parse declaration params = .ok upload ↔
      ∃ label target, Declaration.pair declaration = .ok (label, target) ∧
        Upload.resolve (some label) target params = .ok upload := by
  unfold Upload.parse
  cases Declaration.pair declaration with
  | error refusal => simp
  | ok parts => simp [Prod.ext_iff]

end RequestUploads
