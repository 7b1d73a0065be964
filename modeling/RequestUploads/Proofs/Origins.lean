import Mathlib
import RequestUploads.Proofs.Dialects
import RequestUploads.Proofs.Uri

/-!
# Where uploads come from

Each leaf of a reserved parameter comes to some uploads (`Value.Yields`): an upload to itself, a
text to what is declared in it, anything else to none.  What a text declares is under a label and
is a file that the request holds under the name in the target, or remote without a reserved scheme
(`extractUploads_confined`).

Of the tests that a target goes through, two come too early to be relied on: that for `param:` is
made before blanks are trimmed, that for `file:` before escapes are read.  What counts is the last
one, on the URI that was read (`Upload.ofUri`).  The scheme of such a URI is in small letters
(`Uri.lower_scheme_of_parse`), so that test misses no spelling.
-/

namespace RequestUploads
open Results

def Uri.Unreserved (uri : Uri) : Prop :=
  ∀ name ∈ Upload.reservedSchemes, Ascii.sameIgnoringCase uri.scheme.toList name.toList = false

def Upload.Unreserved (upload : Upload) : Prop :=
  ∀ uri, upload.source = .remote uri → uri.Unreserved

def Params.Holds (params : Params) (name : String) (file : StagedFile) : Prop :=
  params.get? name = some (.file file) ∨
    ∃ items, params.get? name = some (.list items) ∧ .file file ∈ items

inductive Reaches (params : Params) (target : List Char) : Source → Prop
  | inline {name : List Char} {file : StagedFile} :
      Ascii.dropIgnoringCase? paramMarker target = some name →
      params.Holds (String.ofList name) file → Reaches params target (.inline file)
  | remote {uri : Uri} :
      Ascii.dropIgnoringCase? paramMarker target = none → uri.Unreserved →
      Reaches params target (.remote uri)

/-- What a text declares: one of its declarations is read as the upload, which is under the label
given there and is what the target leads to. -/
inductive Declares (dialect : Dialect) (params : Params) (raw : String) : Upload → Prop
  | intro {declarations : List String} {declaration label target : String} {source : Source} :
      Declaration.split dialect raw = .ok declarations → declaration ∈ declarations →
      Upload.parse declaration params = .ok ⟨label, source⟩ →
      Declaration.pair declaration = .ok (label, target) → Declaration.IsLabel label.toList →
      Reaches params target.toList source → Declares dialect params raw ⟨label, source⟩

/-- The uploads that a leaf of a reserved parameter may come to. -/
inductive Value.Yields (dialect : Dialect) (params : Params) : Value → List Upload → Prop
  | null : Yields dialect params .null []
  | file (found : StagedFile) : Yields dialect params (.file found) []
  | upload (found : Upload) : Yields dialect params (.upload found) [found]
  | text {raw : String} {uploads : List Upload} :
      (∀ upload ∈ uploads, Declares dialect params raw upload) →
      Yields dialect params (.text raw) uploads

/-! ## Files of the request -/

theorem Params.holds_of_stagedFile {params : Params} {name : String} {file : StagedFile}
    (found : params.stagedFile name = .ok file) : params.Holds name file := by
  rcases stagedFile_eq_ok_iff.1 found with held | ⟨items, held, last⟩
  · exact .inl held
  · exact .inr ⟨items, held, mem_of_lastFile? last⟩

/-! ## Remote resources -/

theorem Ascii.lower_lower (s : List Char) : lower (lower s) = lower s := by
  simp [lower]

theorem Uri.lower_scheme_of_parse {s : List Char} {uri : Uri} (parses : Uri.parse s = .ok uri) :
    Ascii.lower uri.scheme.toList = uri.scheme.toList := by
  obtain ⟨name, rest, -, scheme⟩ := exists_scheme_of_parse parses
  rw [scheme, Ascii.lower_lower]

theorem Uri.unreserved_of_parse {s : List Char} {uri : Uri} (parses : Uri.parse s = .ok uri)
    (allowed : uri.scheme ∉ Upload.reservedSchemes) : uri.Unreserved := by
  intro name reserved
  have small : Ascii.lower name.toList = name.toList := by
    revert name
    decide
  rw [← Bool.not_eq_true, Ascii.sameIgnoringCase_iff, lower_scheme_of_parse parses, small,
    String.toList_inj]
  rintro rfl
  exact allowed reserved

theorem Upload.remote_of_resolveUri {label : Option String} {target : String} {upload : Upload}
    (resolves : Upload.resolveUri label target = .ok upload) :
    ∃ uri, upload = ⟨label.getD uri.text, .remote uri⟩ ∧ uri.Unreserved := by
  simp only [Upload.resolveUri] at resolves
  split at resolves
  · cases resolves
  · split_ifs at resolves
    split at resolves
    · cases resolves
    · rename_i uri parses
      obtain ⟨allowed, same⟩ := ofUri_ok_iff.1 resolves
      exact ⟨uri, same, Uri.unreserved_of_parse parses allowed⟩

/-! ## Declarations -/

theorem reaches_of_resolve {params : Params} {label : Option String} {target : String}
    {upload : Upload} (resolves : Upload.resolve label target params = .ok upload) :
    Reaches params target.toList upload.source := by
  rcases Upload.resolve_eq_ok_iff.1 resolves with
    ⟨name, file, marked, found, rfl⟩ | ⟨unmarked, remote⟩
  · exact .inline marked (Params.holds_of_stagedFile found)
  · obtain ⟨uri, rfl, unreserved⟩ := Upload.remote_of_resolveUri remote
    exact .remote unmarked unreserved

theorem Upload.unreserved_of_resolve {params : Params} {label : Option String} {target : String}
    {upload : Upload} (resolves : Upload.resolve label target params = .ok upload) :
    upload.Unreserved := by
  intro uri remote
  have reached := reaches_of_resolve resolves
  rw [remote] at reached
  cases reached with
  | remote _ unreserved => exact unreserved

theorem Upload.label_of_resolve {params : Params} {label target : String} {upload : Upload}
    (resolves : Upload.resolve (some label) target params = .ok upload) : upload.label = label := by
  rcases Upload.resolve_eq_ok_iff.1 resolves with ⟨name, file, -, -, rfl⟩ | ⟨-, remote⟩
  · rfl
  · obtain ⟨uri, rfl, -⟩ := Upload.remote_of_resolveUri remote
    rfl

theorem declares_of_parse {dialect : Dialect} {params : Params} {raw declaration : String}
    {declarations : List String} {upload : Upload}
    (division : Declaration.split dialect raw = .ok declarations)
    (member : declaration ∈ declarations) (parses : Upload.parse declaration params = .ok upload) :
    Declares dialect params raw upload := by
  obtain ⟨label, target, accepted, resolves⟩ := Upload.parse_eq_ok_iff.1 parses
  obtain ⟨isLabel, -, -⟩ := Declaration.pair_eq_ok_iff.1 accepted
  obtain rfl := Upload.label_of_resolve resolves
  exact .intro division member parses accepted isLabel (reaches_of_resolve resolves)

/-! ## Leaves -/

theorem yields_of_readings {dialect : Dialect} {params : Params} {leaf : Value}
    {uploads : List Upload} (isLeaf : ∀ items, leaf ≠ .list items)
    (read : leaf.readings dialect params = uploads.map .ok) :
    leaf.Yields dialect params uploads := by
  cases leaf with
  | list items => exact absurd rfl (isLeaf items)
  | null =>
      obtain rfl := List.map_eq_nil_iff.1 read.symm
      exact .null
  | file found =>
      obtain rfl := List.map_eq_nil_iff.1 read.symm
      exact .file found
  | upload found =>
      obtain ⟨same, rfl, isFound⟩ := List.map_eq_singleton_iff.1 read.symm
      rw [Except.ok.inj isFound]
      exact .upload found
  | text raw =>
      refine .text fun upload member => ?_
      have isReading : .ok upload ∈ (Value.text raw).readings dialect params := by
        rw [read]
        exact List.mem_map_of_mem member
      simp only [Value.readings] at isReading
      split_ifs at isReading
      · cases isReading
      · cases division : Declaration.split dialect raw with
        | error refusal => simp [division] at isReading
        | ok declarations =>
            simp only [division, List.mem_map] at isReading
            obtain ⟨declaration, inDivision, parses⟩ := isReading
            exact declares_of_parse division inDivision parses

theorem parts_of_result {σ : Type} {dialect : Dialect} {files : FileManager σ} {params : Params}
    {state : σ} {uploads : List Upload}
    (succeeds : (extractUploads dialect files params state).result = .ok uploads) :
    ∃ parts, List.Forall₂ (Value.Yields dialect params) params.reservedLeaves parts ∧
      parts.flatten = uploads := by
  obtain ⟨parts, each, same⟩ := exists_parts_of_flatMap_eq_ok (readings_of_result succeeds)
  have leaves : ∀ leaf ∈ params.reservedLeaves, ∀ items, leaf ≠ .list items := by
    rintro leaf member items rfl
    exact Value.list_not_mem_leavesAll items _ member
  have both := (List.forall₂_and_left _ _).2 ⟨leaves, each⟩
  exact ⟨parts, both.imp fun leaf part here => yields_of_readings here.1 here.2, same⟩

theorem extractUploads_confined {σ : Type} (dialect : Dialect) (files : FileManager σ)
    (params : Params) (state : σ) :
    (∀ uploads, (extractUploads dialect files params state).result = .ok uploads →
      ∃ parts, List.Forall₂ (Value.Yields dialect params) params.reservedLeaves parts ∧
        parts.flatten = uploads) ∧
    (∀ (others : Params) (label : Option String) (target : String) (upload : Upload),
      Upload.resolve label target others = .ok upload → upload.Unreserved) ∧
    (∀ (others : Params) (declaration : String) (upload : Upload),
      Upload.parse declaration others = .ok upload → upload.Unreserved) ∧
    ∀ (label : Option String) (uri : Uri) (upload : Upload), Upload.ofUri label uri = .ok upload →
      upload.source = .remote uri ∧ uri.scheme ≠ "param" ∧ uri.scheme ≠ "file" := by
  refine ⟨fun _ => parts_of_result, fun _ _ _ _ => Upload.unreserved_of_resolve, ?_, ?_⟩
  · intro others declaration upload parses
    obtain ⟨label, target, -, resolves⟩ := Upload.parse_eq_ok_iff.1 parses
    exact Upload.unreserved_of_resolve resolves
  · intro label uri upload accepted
    obtain ⟨allowed, rfl⟩ := Upload.ofUri_ok_iff.1 accepted
    refine ⟨rfl, ?_, ?_⟩
    · intro same
      exact allowed (by simp [same, Upload.reservedSchemes])
    · intro same
      exact allowed (by simp [same, Upload.reservedSchemes])

theorem extractUploads_confined_nested :
    let first : StagedFile := ⟨"f", "/staging/1", none, none, none⟩
    let last : StagedFile := ⟨"f", "/staging/2", none, none, none⟩
    let given : Upload := ⟨"0", .inline first⟩
    let uploads : List Upload :=
      [given, ⟨"a", .inline last⟩,
        ⟨"b_2", .remote ⟨"urn", none, .rootless "file:/etc", none, none⟩⟩]
    let params := Params.collect
      [("f", .file first), ("f", .file last), ("f", .text "x"),
        ("Upload", .list [.null, .upload given, .list [.text "a,PaRaM:f;b_2,URN:%66ile:%2Fetc "]])]
    (extractUploads .tap .keep params ()).result = .ok uploads ∧
      ∃ parts, List.Forall₂ (Value.Yields .tap params) params.reservedLeaves parts ∧
        parts.flatten = uploads := by
  intro first last given uploads params
  have succeeds : (extractUploads .tap .keep params ()).result = .ok uploads := by decide +kernel
  have confined := extractUploads_confined .tap .keep params ()
  exact ⟨succeeds, confined.1 uploads succeeds⟩

end RequestUploads
