import RequestUploads.Proofs.Collected
import RequestUploads.Proofs.Text.Percent
import RequestUploads.Proofs.TextForm

/-!
# Where targets lead

A target that begins with `param:` in any case refers to a parameter (`RefersTo`).  It leads to what
is found under the rest of it, taken as it is written, and to nothing else.  Any other target leads
to a URI, whatever the parameters are, and its scheme is decided by how it is written: reading its
escapes leaves what stands before the first colon as it is (`Percent.decode_scheme`), and so does
reading the URI.  So `file` and `param` are forbidden in any case, and no escape leads to them or
away from them (`Upload.resolve_by_scheme`).

In collected submissions the file under a name is the last one that was submitted there, whatever
else was (`Upload.resolve_collect`).
-/

namespace RequestUploads

/-! ## Targets that refer to parameters -/

theorem Ascii.dropIgnoringCase?_of_lower {head front : List Char} (same : lower front = lower head)
    (rest : List Char) : dropIgnoringCase? head (front ++ rest) = some rest := by
  induction head generalizing front with
  | nil =>
      obtain rfl := List.map_eq_nil_iff.1 same
      rfl
  | cons h head ih =>
      obtain ⟨c, front, rfl, first, others⟩ := List.map_eq_cons_iff.1 same
      rw [List.cons_append, dropIgnoringCase?, if_pos first.symm, ih others]

def RefersTo (target name : List Char) : Prop :=
  ∃ front, Ascii.lower front = paramMarker ∧ target = front ++ name

theorem dropIgnoringCase?_eq_some_iff {target name : List Char} :
    Ascii.dropIgnoringCase? paramMarker target = some name ↔ RefersTo target name := by
  have small : Ascii.lower paramMarker = paramMarker := by decide
  constructor
  · intro dropped
    obtain ⟨front, divided, same⟩ := Ascii.eq_append_of_dropIgnoringCase? dropped
    exact ⟨front, same.trans small, divided⟩
  · rintro ⟨front, same, rfl⟩
    exact Ascii.dropIgnoringCase?_of_lower (same.trans small.symm) name

theorem dropIgnoringCase?_eq_none_iff {target : List Char} :
    Ascii.dropIgnoringCase? paramMarker target = none ↔ ∀ name, ¬RefersTo target name := by
  simp only [Option.eq_none_iff_forall_ne_some, ne_eq, dropIgnoringCase?_eq_some_iff]

theorem Params.stagedFile_refusal {params : Params} {name : String} {refusal : UploadError}
    (refused : params.stagedFile name = .error refusal) :
    refusal = .missingFile name ∨ refusal = .notFile name := by
  unfold stagedFile at refused
  split at refused
  · exact .inl (Except.error.inj refused).symm
  · exact .inl (Except.error.inj refused).symm
  · cases refused
  · split at refused
    · cases refused
    · exact .inl (Except.error.inj refused).symm
  · exact .inr (Except.error.inj refused).symm
  · exact .inr (Except.error.inj refused).symm

namespace Upload

variable {label : Option String} {target : String}

theorem resolve_of_refersTo {name : List Char} (refers : RefersTo target.toList name)
    (params : Params) :
    resolve label target params = (params.stagedFile (String.ofList name)).map (ofFile label) := by
  rw [resolve, dropIgnoringCase?_eq_some_iff.2 refers]

theorem resolve_of_other (other : ∀ name, ¬RefersTo target.toList name) (params : Params) :
    resolve label target params = resolveUri label target := by
  rw [resolve, dropIgnoringCase?_eq_none_iff.2 other]

end Upload

/-! ## Targets that are URIs -/

theorem Declaration.isTarget_append_iff {scheme rest : List Char} (free : ':' ∉ scheme) :
    IsTarget (scheme ++ ':' :: rest) ↔ Scheme.IsScheme scheme ∧ rest ≠ [] ∧ '\n' ∉ rest := by
  rw [isTarget_iff]
  constructor
  · rintro ⟨name, later, isScheme, nonempty, oneLine, same⟩
    have freeName : ':' ∉ name := not_mem_scheme isScheme Scheme.not_isChar_colon
    have cut := Text.cut?_append free rest
    rw [same, Text.cut?_append freeName, Option.some.injEq, Prod.mk.injEq] at cut
    obtain ⟨rfl, rfl⟩ := cut
    exact ⟨isScheme, nonempty, oneLine⟩
  · rintro ⟨isScheme, nonempty, oneLine⟩
    exact ⟨scheme, rest, isScheme, nonempty, oneLine, rfl⟩

theorem Percent.decode_scheme {scheme : List Char} (isScheme : Scheme.IsScheme scheme)
    (rest : List Char) : decode (scheme ++ ':' :: rest) = scheme ++ ':' :: decode rest := by
  have free : '%' ∉ scheme ++ [':'] := by
    simp [Declaration.not_mem_scheme isScheme (c := '%') (by decide)]
  simpa using decode_append_of_free free rest

theorem Uri.scheme_of_parse_decode {scheme rest : List Char} (isScheme : Scheme.IsScheme scheme)
    {uri : Uri} (parses : Uri.parse (Percent.decode (scheme ++ ':' :: rest)) = .ok uri) :
    uri.scheme.toList = Ascii.lower scheme := by
  rw [Percent.decode_scheme isScheme] at parses
  exact scheme_of_parse isScheme parses

namespace Upload

def Forbids (scheme : String) (result : Except UploadError Upload) : Prop :=
  ∃ label, result = .error (.forbiddenScheme label scheme)

theorem forbids_ofUri_iff {label : Option String} {uri : Uri} {scheme : String} :
    Forbids scheme (ofUri label uri) ↔ uri.scheme = scheme ∧ scheme ∈ reservedSchemes := by
  unfold Forbids ofUri
  by_cases reserved : uri.scheme ∈ reservedSchemes
  · simp only [reserved, if_true, Except.error.injEq, UploadError.forbiddenScheme.injEq,
      exists_and_right, exists_eq', true_and]
    exact ⟨fun same => ⟨same, same ▸ reserved⟩, And.left⟩
  · simp only [reserved, if_false, reduceCtorEq, exists_false, false_iff, not_and]
    rintro rfl
    exact reserved

def readUri (target : String) : Except Uri.Failure Uri :=
  Uri.parse (Percent.decode (Blank.trim target.toList))

section
variable {label : Option String} {target : String}

theorem resolveUri_of_not_isTarget
    (malformed : ¬Declaration.IsTarget (Blank.trim target.toList)) :
    resolveUri label target =
      .error (.malformed (String.ofList (Blank.trim target.toList)) .notUri) := by
  simp only [Declaration.IsTarget] at malformed
  simp only [resolveUri]
  split
  · rfl
  · rename_i scheme rest divided
    rw [divided] at malformed
    have bad : rest = [] ∨ '\n' ∈ rest := by
      by_contra good
      exact malformed (by simpa [not_or] using good)
    rw [if_pos bad]

variable {scheme rest : List Char} (written : Blank.trim target.toList = scheme ++ ':' :: rest)
  (isScheme : Scheme.IsScheme scheme) (nonempty : rest ≠ []) (oneLine : '\n' ∉ rest)

include written isScheme nonempty oneLine

/-- What stands before the first colon decides: either it is `file` and refused before anything is
read, or nothing can be read, or it is the scheme of the URI. -/
theorem resolveUri_cases (label : Option String) :
    (Ascii.lower scheme = "file".toList ∧ Forbids "file" (resolveUri label target)) ∨
    (Ascii.lower scheme ≠ "file".toList ∧ (∀ uri, readUri target ≠ .ok uri) ∧
      ∃ input fault, resolveUri label target = .error (.malformed input fault)) ∨
    (Ascii.lower scheme ≠ "file".toList ∧ ∃ uri, readUri target = .ok uri ∧
      uri.scheme.toList = Ascii.lower scheme ∧ resolveUri label target = ofUri label uri) := by
  have divided : Scheme.split? (scheme ++ ':' :: rest) = some (scheme, rest) :=
    Scheme.split?_eq_some_iff.2 ⟨isScheme, rfl⟩
  have small : Ascii.lower "file".toList = "file".toList := by decide
  simp only [resolveUri, readUri, written, divided, nonempty, oneLine, or_self, if_false,
    Ascii.sameIgnoringCase_iff, small]
  by_cases isFile : Ascii.lower scheme = "file".toList
  · rw [if_pos isFile]
    exact .inl ⟨isFile, _, rfl⟩
  · rw [if_neg isFile]
    cases parses : Uri.parse (Percent.decode (scheme ++ ':' :: rest)) with
    | error failure => exact .inr (.inl ⟨isFile, by simp, _, _, rfl⟩)
    | ok uri =>
        exact .inr (.inr ⟨isFile, uri, rfl, Uri.scheme_of_parse_decode isScheme parses, rfl⟩)

theorem forbids_file_iff :
    Forbids "file" (resolveUri label target) ↔ Ascii.lower scheme = "file".toList := by
  rcases resolveUri_cases written isScheme nonempty oneLine label with
    ⟨isFile, forbids⟩ | ⟨notFile, -, input, fault, malformed⟩ | ⟨notFile, uri, -, same, reads⟩
  · exact iff_of_true forbids isFile
  · refine iff_of_false ?_ notFile
    rintro ⟨shown, refused⟩
    rw [malformed] at refused
    cases refused
  · rw [reads, forbids_ofUri_iff, ← same, String.toList_inj]
    exact and_iff_left (by decide)

theorem forbids_param_iff :
    Forbids "param" (resolveUri label target) ↔
      Ascii.lower scheme = "param".toList ∧ ∃ uri, readUri target = .ok uri := by
  rcases resolveUri_cases written isScheme nonempty oneLine label with
    ⟨isFile, shown, forbids⟩ | ⟨-, unread, input, fault, malformed⟩ | ⟨-, uri, read, same, reads⟩
  · refine iff_of_false ?_ ?_
    · rintro ⟨other, refused⟩
      simp [forbids] at refused
    · rintro ⟨isParam, -⟩
      rw [isFile] at isParam
      exact absurd isParam (by decide)
  · refine iff_of_false ?_ ?_
    · rintro ⟨shown, refused⟩
      rw [malformed] at refused
      cases refused
    · rintro ⟨-, uri, read⟩
      exact unread uri read
  · rw [reads, forbids_ofUri_iff, ← same, String.toList_inj]
    exact and_congr_right fun _ => iff_of_true (by decide) ⟨uri, read⟩

theorem scheme_of_resolveUri {upload : Upload} (resolves : resolveUri label target = .ok upload) :
    ∃ uri, upload.source = .remote uri ∧ uri.scheme.toList = Ascii.lower scheme := by
  rcases resolveUri_cases written isScheme nonempty oneLine label with
    ⟨-, shown, forbids⟩ | ⟨-, -, input, fault, malformed⟩ | ⟨-, uri, -, same, reads⟩
  · rw [forbids] at resolves
    cases resolves
  · rw [malformed] at resolves
    cases resolves
  · rw [reads] at resolves
    obtain ⟨-, rfl⟩ := ofUri_ok_iff.1 resolves
    exact ⟨uri, rfl, same⟩

end

theorem resolve_by_scheme (label : Option String) (target : String) (params : Params) :
    ((∀ name, ¬RefersTo target.toList name) →
      (∀ others, resolve label target others = resolve label target params) ∧
      (¬Declaration.IsTarget (Blank.trim target.toList) →
        ∃ input fault, resolve label target params = .error (.malformed input fault)) ∧
      (Declaration.IsTarget (Blank.trim target.toList) → ∀ scheme rest, ':' ∉ scheme →
        Blank.trim target.toList = scheme ++ ':' :: rest →
        (Forbids "file" (resolve label target params) ↔ Ascii.lower scheme = "file".toList) ∧
        (Forbids "param" (resolve label target params) ↔
          Ascii.lower scheme = "param".toList ∧ ∃ uri, readUri target = .ok uri) ∧
        ∀ upload, resolve label target params = .ok upload →
          ∃ uri, upload.source = .remote uri ∧ uri.scheme.toList = Ascii.lower scheme)) ∧
    ∀ name, RefersTo target.toList name →
      resolve label target params = (params.stagedFile (String.ofList name)).map (ofFile label) ∧
      (∀ upload, resolve label target params = .ok upload → ∃ file, upload.source = .inline file) ∧
      ∀ refusal, resolve label target params = .error refusal →
        refusal = .missingFile (String.ofList name) ∨ refusal = .notFile (String.ofList name) := by
  constructor
  · intro other
    have reads : ∀ others, resolve label target others = resolveUri label target :=
      resolve_of_other other
    refine ⟨fun others => by rw [reads, reads], ?_⟩
    rw [reads]
    constructor
    · intro malformed
      exact ⟨_, _, resolveUri_of_not_isTarget malformed⟩
    · intro isTarget scheme rest free written
      rw [written, Declaration.isTarget_append_iff free] at isTarget
      obtain ⟨isScheme, nonempty, oneLine⟩ := isTarget
      exact ⟨forbids_file_iff written isScheme nonempty oneLine,
        forbids_param_iff written isScheme nonempty oneLine,
        fun _ => scheme_of_resolveUri written isScheme nonempty oneLine⟩
  · intro name refers
    have looksUp : resolve label target params =
        (params.stagedFile (String.ofList name)).map (ofFile label) :=
      resolve_of_refersTo refers params
    refine ⟨looksUp, ?_, ?_⟩
    · intro upload resolves
      rw [looksUp] at resolves
      cases found : params.stagedFile (String.ofList name) with
      | error refusal => simp [found] at resolves
      | ok file =>
          rw [found] at resolves
          exact ⟨file, by rw [← Except.ok.inj resolves]; rfl⟩
    · intro refusal refused
      rw [looksUp] at refused
      cases found : params.stagedFile (String.ofList name) with
      | ok file => simp [found] at refused
      | error other =>
          rw [found] at refused
          obtain rfl := Except.error.inj refused
          exact Params.stagedFile_refusal found

theorem resolve_by_scheme_spellings :
    let file : StagedFile := ⟨" %66", "/staging/1", none, none, none⟩
    let params := Params.collect [(" %66", .file file)]
    let resource : Upload := ⟨"a", .remote ⟨"urn", none, .rootless "param:x", none, none⟩⟩
    resolve (some "a") "URN:param%3Ax" params = .ok resource ∧
      (∃ uri, resource.source = .remote uri ∧ uri.scheme.toList = Ascii.lower "URN".toList) ∧
      Forbids "param" (resolve (some "a") " Param:%66" params) ∧
      Forbids "file" (resolve none "FILE:%66" params) ∧
      (∃ input fault, resolve none "%66ile:x" params = .error (.malformed input fault)) ∧
      resolve none "PARAM: %66" params = .ok (ofFile none file) ∧
      ∃ held, (ofFile none file).source = .inline held := by
  intro file params resource
  have other : ∀ target ∈ ["URN:param%3Ax", " Param:%66", "FILE:%66", "%66ile:x"], ∀ name,
      ¬RefersTo target.toList name := by
    simp only [← dropIgnoringCase?_eq_none_iff]
    decide +kernel
  have refers : RefersTo "PARAM: %66".toList " %66".toList :=
    ⟨"PARAM:".toList, by decide, by decide⟩
  have found : resolve (some "a") "URN:param%3Ax" params = .ok resource := by decide +kernel
  have staged : resolve none "PARAM: %66" params = .ok (ofFile none file) := by decide +kernel
  have named := ((resolve_by_scheme (some "a") "URN:param%3Ax" params).1 (other _ (by simp))).2.2
    (by decide +kernel) "URN".toList "param%3Ax".toList (by decide) (by decide)
  -- The blank keeps this target from being a reference, and its scheme is forbidden all the same.
  have blank := ((resolve_by_scheme (some "a") " Param:%66" params).1 (other _ (by simp))).2.2
    (by decide +kernel) "Param".toList "%66".toList (by decide) (by decide)
  have capital := ((resolve_by_scheme none "FILE:%66" params).1 (other _ (by simp))).2.2
    (by decide +kernel) "FILE".toList "%66".toList (by decide) (by decide)
  have escaped := (resolve_by_scheme none "%66ile:x" params).1 (other _ (by simp))
  have reference := (resolve_by_scheme none "PARAM: %66" params).2 _ refers
  have read : readUri " Param:%66" = .ok ⟨"param", none, .rootless "f", none, none⟩ := by
    decide +kernel
  exact ⟨found, named.2.2 _ found, blank.2.1.2 ⟨by decide, _, read⟩, capital.1.2 (by decide),
    escaped.2.1 (by decide +kernel), staged, reference.2.1 _ staged⟩

end Upload

/-! ## The last file submitted under a name -/

def IsOneOther (values : List Value) : Prop :=
  ∃ value, values = [value] ∧
    ((∃ content, value = .text content) ∨ ∃ upload, value = .upload upload)

theorem submitted_append (name : String) (earlier later : List (String × Value)) :
    submitted name (earlier ++ later) = submitted name earlier ++ submitted name later := by
  simp [submitted]

theorem file_mem_submitted_iff {name : String} {submissions : List (String × Value)}
    {file : StagedFile} :
    .file file ∈ submitted name submissions ↔ (name, .file file) ∈ submissions := by
  simp [submitted]

namespace Params

theorem lastFile?_eq_none {items : List Value} (noFile : ∀ file, .file file ∉ items) :
    lastFile? items = none := by
  refine List.findSome?_eq_none_iff.2 fun item member => ?_
  by_contra isFile
  obtain ⟨file, found⟩ := Option.ne_none_iff_exists'.1 isFile
  rw [eq_file_of_file? found] at member
  exact noFile file (List.mem_reverse.1 member)

theorem lastFile?_append_file {before after : List Value} {file : StagedFile}
    (last : ∀ later, .file later ∉ after) :
    lastFile? (before ++ .file file :: after) = some file := by
  have noLater : after.reverse.findSome? Value.file? = none := lastFile?_eq_none last
  rw [lastFile?, List.reverse_append, List.reverse_cons, List.append_assoc, List.singleton_append,
    List.findSome?_append, noLater, Option.none_or]
  rfl

variable {submissions : List (String × Value)} {name : String}
  (flat : ∀ submission ∈ submissions, ∀ items, submission.2 ≠ .list items)

include flat

theorem stagedFile_collect_of_last {before after : List (String × Value)} {file : StagedFile}
    (divided : submissions = before ++ (name, .file file) :: after)
    (last : ∀ later, (name, .file later) ∉ after) :
    (collect submissions).stagedFile name = .ok file := by
  have there : submitted name submissions =
      submitted name before ++ .file file :: submitted name after := by
    rw [divided, submitted_append]
    simp [submitted]
  rw [stagedFile_collect_eq_ok_iff flat, there]
  exact lastFile?_append_file fun later member => last later (file_mem_submitted_iff.1 member)

/-- Where no file was submitted, a single text or upload is taken for a mistake in the reference and
anything else for a file that is missing. -/
theorem stagedFile_collect_of_none (noFile : ∀ file, (name, .file file) ∉ submissions) :
    (IsOneOther (submitted name submissions) →
      (collect submissions).stagedFile name = .error (.notFile name)) ∧
    (¬IsOneOther (submitted name submissions) →
      (collect submissions).stagedFile name = .error (.missingFile name)) := by
  have flatThere := flat_submitted flat name
  have noneThere : ∀ file, .file file ∉ submitted name submissions := fun file member =>
    noFile file (file_mem_submitted_iff.1 member)
  rw [stagedFile, get?_collect]
  match values : submitted name submissions with
  | [] => simp [Value.collected, IsOneOther]
  | [value] =>
      rw [values] at flatThere noneThere
      cases value with
      | list items => exact absurd rfl (flatThere _ (by simp) items)
      | file found => exact absurd (by simp) (noneThere found)
      | null | text _ | upload _ => simp [Value.collected, IsOneOther]
  | first :: next :: later =>
      rw [values] at flatThere noneThere
      rw [Value.collected_cons_of_flat (flatThere first (by simp))]
      simp [lastFile?_eq_none noneThere, IsOneOther]

end Params

theorem Upload.resolve_collect {submissions : List (String × Value)}
    (flat : ∀ submission ∈ submissions, ∀ items, submission.2 ≠ .list items)
    {target name : String} (refers : RefersTo target.toList name.toList) (label : Option String) :
    (∀ before file after, submissions = before ++ (name, .file file) :: after →
      (∀ later, (name, .file later) ∉ after) →
      resolve label target (.collect submissions) = .ok (ofFile label file)) ∧
    ((∀ file, (name, .file file) ∉ submissions) →
      (IsOneOther (submitted name submissions) →
        resolve label target (.collect submissions) = .error (.notFile name)) ∧
      (¬IsOneOther (submitted name submissions) →
        resolve label target (.collect submissions) = .error (.missingFile name))) := by
  rw [resolve_of_refersTo refers, String.ofList_toList]
  constructor
  · intro before file after divided last
    rw [Params.stagedFile_collect_of_last flat divided last]
    rfl
  · intro noFile
    obtain ⟨mistaken, missing⟩ := Params.stagedFile_collect_of_none flat noFile
    constructor
    · intro oneOther
      rw [mistaken oneOther]
      rfl
    · intro notOther
      rw [missing notOther]
      rfl

theorem Upload.resolve_collect_last :
    let first : StagedFile := ⟨"f", "/staging/1", none, none, none⟩
    let last : StagedFile := ⟨"f", "/staging/2", some "t.xml", none, some 10⟩
    let submissions : List (String × Value) :=
      [("f", .text "x"), ("f", .file first), ("t", .text "y"), ("f", .file last), ("f", .null),
        ("n", .text "x"), ("n", .text "y")]
    (∀ submission ∈ submissions, ∀ items, submission.2 ≠ .list items) ∧
      resolve (some "a") "PaRaM:f" (.collect submissions) = .ok (ofFile (some "a") last) ∧
      resolve none "param:t" (.collect submissions) = .error (.notFile "t") ∧
      resolve none "PARAM:n" (.collect submissions) = .error (.missingFile "n") := by
  intro first last submissions
  have flat : ∀ submission ∈ submissions, ∀ items, submission.2 ≠ .list items := by
    simp [submissions]
  have toFile : RefersTo "PaRaM:f".toList "f".toList := ⟨"PaRaM:".toList, by decide, by decide⟩
  have toText : RefersTo "param:t".toList "t".toList := ⟨"param:".toList, by decide, by decide⟩
  have toTexts : RefersTo "PARAM:n".toList "n".toList := ⟨"PARAM:".toList, by decide, by decide⟩
  have divided : submissions = [("f", .text "x"), ("f", .file first), ("t", .text "y")] ++
      ("f", .file last) :: [("f", .null), ("n", .text "x"), ("n", .text "y")] := rfl
  have noLater : ∀ later, ("f", Value.file later) ∉
      [("f", Value.null), ("n", .text "x"), ("n", .text "y")] := by
    simp
  have noFile {name : String} (other : name ≠ "f") : ∀ file, (name, .file file) ∉ submissions := by
    simp [submissions, other]
  have oneText : IsOneOther (submitted "t" submissions) := ⟨.text "y", rfl, .inl ⟨"y", rfl⟩⟩
  have twoTexts : ¬IsOneOther (submitted "n" submissions) := by
    rintro ⟨value, same, -⟩
    cases same
  exact ⟨flat, (resolve_collect flat toFile (some "a")).1 _ last _ divided noLater,
    ((resolve_collect flat toText none).2 (noFile (by decide))).1 oneText,
    ((resolve_collect flat toTexts none).2 (noFile (by decide))).2 twoTexts⟩

end RequestUploads
