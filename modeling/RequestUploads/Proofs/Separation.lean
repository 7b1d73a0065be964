import RequestUploads.Proofs.Dialects

/-!
# Values divided beforehand

`Params.separate` puts a list of its pieces in the place of each text that TAP divides.  The result
means the same in either dialect as the original does in TAP (`extractUploads_separate`):

* a piece that is a declaration stays whole in both dialects, and is not blank;
* a reference finds the same file (`stagedFile_separate`).  It cannot find a text that was divided,
  since texts are no files, and a list of pieces has no file among its items either.
-/

namespace RequestUploads
open Results

/-! ## Separating -/

/-- A text as the list of its pieces, if it is not blank and TAP divides it. -/
def Value.separateLeaf : Value → Value
  | .text raw =>
      if Blank.trim raw.toList = [] then .text raw
      else match Declaration.split .tap raw with
        | .error _ => .text raw
        | .ok declarations => .list (declarations.map .text)
  | leaf => leaf

def Value.separate (value : Value) : Value := value.mapLeaves Value.separateLeaf

namespace Params

def separateEntry (entry : String × Value) : String × Value :=
  (entry.1, if isReserved entry.1 then entry.2.separate else entry.2)

def separate (params : Params) : Params := ⟨params.entries.map separateEntry⟩

end Params

/-! ## What separating keeps -/

theorem file?_separate (value : Value) : value.separate.file? = value.file? := by
  cases value with
  | text raw =>
      simp only [Value.separate, Value.mapLeaves, Value.separateLeaf]
      split_ifs
      · rfl
      · cases Declaration.split .tap raw <;> rfl
  | null | file _ | upload _ | list _ => rfl

theorem reservedValues_separate (params : Params) :
    params.separate.reservedValues = params.reservedValues.map Value.separate := by
  obtain ⟨entries⟩ := params
  simp only [Params.reservedValues, Params.separate]
  induction entries with
  | nil => rfl
  | cons entry entries ih =>
      by_cases reserved : isReserved entry.1 <;>
        simpa [Params.separateEntry, reserved] using ih

theorem reservedLeaves_separate (params : Params) :
    params.separate.reservedLeaves =
      params.reservedLeaves.flatMap fun leaf => leaf.separateLeaf.leaves := by
  rw [Params.reservedLeaves, reservedValues_separate]
  exact Value.leavesAll_mapLeaves _ _

theorem reservedFiles_separate (params : Params) :
    params.separate.reservedFiles = params.reservedFiles := by
  have each : ∀ leaf ∈ params.reservedLeaves,
      leaf.separateLeaf.leaves.filterMap Value.file? = [leaf].filterMap Value.file? := by
    intro leaf member
    cases leaf with
    | list items => exact absurd member (Value.list_not_mem_leavesAll items _)
    | null | file _ | upload _ => rfl
    | text raw =>
        simp only [Value.separateLeaf]
        split_ifs
        · rfl
        · cases Declaration.split .tap raw with
          | error _ => rfl
          | ok declarations =>
              rw [Value.leaves_list, Value.leavesAll_map_text, List.filterMap_map]
              exact List.filterMap_eq_nil_iff.2 fun _ _ => rfl
  calc params.separate.reservedFiles
      = params.reservedLeaves.flatMap fun leaf =>
          leaf.separateLeaf.leaves.filterMap Value.file? := by
        rw [Params.reservedFiles, reservedLeaves_separate, List.filterMap_flatMap]
    _ = params.reservedLeaves.flatMap fun leaf => [leaf].filterMap Value.file? :=
        List.flatMap_congr each
    _ = params.reservedFiles := by
        rw [← List.filterMap_flatMap, List.flatMap_singleton']
        rfl

theorem names_separate (params : Params) : params.separate.names = params.names := by
  simp [Params.names, Params.separate, Params.separateEntry, Function.comp_def]

theorem unreserved_separate (params : Params) : params.separate.unreserved = params.unreserved := by
  obtain ⟨entries⟩ := params
  simp only [Params.unreserved, Params.retain, Params.separate, Params.mk.injEq]
  induction entries with
  | nil => rfl
  | cons entry entries ih =>
      by_cases reserved : isReserved entry.1 <;>
        simpa [Params.separateEntry, reserved] using ih

theorem separate_of_none {params : Params} (none : params.names.any isReserved = false) :
    params.separate = params := by
  obtain ⟨entries⟩ := params
  simp only [Params.names, List.any_map, List.any_eq_false, Function.comp_apply] at none
  simp only [Params.separate, Params.mk.injEq]
  refine (List.map_congr_left ?_).trans (List.map_id entries)
  intro entry member
  simp [Params.separateEntry, none entry member]

theorem ofUploads_separate (params : Params) (uploads : List Upload) :
    Extraction.ofUploads params.separate uploads = Extraction.ofUploads params uploads := by
  by_cases reserved : params.names.any isReserved = true
  · exact ofUploads_congr uploads reserved (by rwa [names_separate]) (unreserved_separate params)
      (reservedFiles_separate params)
  · rw [separate_of_none (Bool.eq_false_iff.2 reserved)]

/-! ## References into separated parameters -/

theorem get?_separate (params : Params) (name : String) :
    params.separate.get? name = (params.get? name).map fun value =>
      if isReserved name then value.separate else value := by
  obtain ⟨entries⟩ := params
  simp only [Params.get?, Params.separate]
  induction entries with
  | nil => rfl
  | cons entry entries ih =>
      obtain ⟨key, value⟩ := entry
      by_cases same : key = name
      · simp [Params.find?, Params.separateEntry, same]
      · simpa [Params.find?, Params.separateEntry, same] using ih

theorem lastFile?_map_separate (items : List Value) :
    Params.lastFile? (items.map Value.separate) = Params.lastFile? items := by
  rw [Params.lastFile?, ← List.map_reverse, List.findSome?_map]
  exact congrArg (List.findSome? · items.reverse) (funext file?_separate)

theorem stagedFile_separate {params : Params} {name : String} {file : StagedFile}
    (found : params.stagedFile name = .ok file) : params.separate.stagedFile name = .ok file := by
  rw [Params.stagedFile_eq_ok_iff, get?_separate]
  rcases Params.stagedFile_eq_ok_iff.1 found with held | ⟨items, held, last⟩
  · left
    have same : Value.separate (.file file) = .file file := rfl
    rw [held, Option.map_some, same, ite_self]
  · right
    rw [held, Option.map_some]
    split_ifs with reserved
    · refine ⟨items.map Value.separate, ?_, ?_⟩
      · rw [Value.separate, Value.mapLeaves, Value.mapLeavesAll_eq_map]
        rfl
      · rw [lastFile?_map_separate, last]
    · exact ⟨items, rfl, last⟩

theorem parse_separate {declaration : String} {params : Params} {upload : Upload}
    (parses : Upload.parse declaration params = .ok upload) :
    Upload.parse declaration params.separate = .ok upload := by
  obtain ⟨label, target, accepted, resolves⟩ := Upload.parse_eq_ok_iff.1 parses
  refine Upload.parse_eq_ok_iff.2 ⟨label, target, accepted, ?_⟩
  rcases Upload.resolve_eq_ok_iff.1 resolves with ⟨name, file, marked, found, same⟩ | remote
  · exact Upload.resolve_eq_ok_iff.2 (.inl ⟨name, file, marked, stagedFile_separate found, same⟩)
  · exact Upload.resolve_eq_ok_iff.2 (.inr remote)

/-! ## Readings of separated parameters -/

theorem trim_ne_nil_of_isDeclaration {raw : String}
    (declaration : Declaration.IsDeclaration raw.toList) : Blank.trim raw.toList ≠ [] :=
  Blank.trim_ne_nil declaration.comma_mem (by decide)

theorem readings_piece {params : Params} {dialect : Dialect} {piece : String} {upload : Upload}
    (whole : Declaration.Whole piece.toList) (parses : Upload.parse piece params = .ok upload) :
    (Value.text piece).readings dialect params.separate = [.ok upload] := by
  have declaration := isDeclaration_of_parse parses
  simp only [Value.readings, if_neg (trim_ne_nil_of_isDeclaration declaration),
    Declaration.split_of_whole dialect whole declaration, List.map_cons, List.map_nil,
    parse_separate parses]

theorem readings_separateLeaf {params : Params} (dialect : Dialect) {leaf : Value}
    (member : leaf ∈ params.reservedLeaves)
    (readable : ∀ raw, leaf = .text raw → ¬Unreadable .tap params raw) :
    leaf.separateLeaf.leaves.flatMap (Value.readings dialect params.separate) =
      leaf.readings .tap params := by
  cases leaf with
  | list items => exact absurd member (Value.list_not_mem_leavesAll items _)
  | null | file _ | upload _ => rfl
  | text raw =>
      simp only [Value.separateLeaf, Value.readings]
      split_ifs with blank
      · simp [Value.readings, blank]
      · obtain ⟨declarations, division, parse⟩ := declarations_of_readable blank (readable raw rfl)
        have whole := (Declaration.divided_of_split division).whole_of_mem
        simp only [division, Value.leaves_list, Value.leavesAll_map_text, List.flatMap_map]
        rw [List.map_eq_flatMap]
        apply List.flatMap_congr
        intro piece inDivision
        obtain ⟨upload, parses⟩ := parse piece inDivision
        have isWhole := whole _ (List.mem_map.2 ⟨piece, inDivision, rfl⟩)
          (isDeclaration_of_parse parses)
        rw [readings_piece isWhole parses, parses]

theorem readings_separate {params : Params} (dialect : Dialect)
    (readable : ∀ raw, .text raw ∈ params.reservedLeaves → ¬Unreadable .tap params raw) :
    params.separate.readings dialect = params.readings .tap := by
  rw [Params.readings, reservedLeaves_separate, List.flatMap_assoc]
  apply List.flatMap_congr
  intro leaf member
  refine readings_separateLeaf dialect member ?_
  rintro raw rfl
  exact readable raw member

theorem extractUploads_separate {σ τ : Type} (params : Params) (files : FileManager σ) (state : σ)
    (uploads : List Upload)
    (succeeds : (extractUploads .tap files params state).result = .ok uploads)
    (dialect : Dialect) (others : FileManager τ) (start : τ) :
    let separated := extractUploads dialect others params.separate start
    separated.result = .ok uploads ∧
      separated.params = (extractUploads .tap files params state).params ∧
      separated.attempts = (extractUploads .tap files params state).attempts := by
  have same := readings_separate dialect (readable_of_result succeeds)
  rw [extractUploads_result] at succeeds
  have read := mapM_id_eq_ok_iff.1 succeeds
  rw [extractUploads_of_uploads read, extractUploads_of_uploads (same.trans read),
    ofUploads_separate]
  exact ⟨rfl, rfl, rfl⟩

theorem extractUploads_separate_joined :
    let file : StagedFile := ⟨"f;g", "/staging/f", none, none, none⟩
    let unused : StagedFile := ⟨"h", "/staging/h", none, none, none⟩
    let uploads : List Upload := [⟨"a", .inline file⟩, ⟨"b", .inline file⟩]
    let params : Params :=
      ⟨[("UPLOAD", .list [.null, .text "a,param:f;g;b,PARAM:f;g"]), ("f;g", .file file),
        ("h", .file unused)]⟩
    let joined := extractUploads .tap .keep params ()
    let separated := extractUploads .dali .keep params.separate ()
    joined.result = .ok uploads ∧ separated.result = .ok uploads ∧
      separated.params = joined.params ∧ separated.attempts = joined.attempts := by
  intro file unused uploads params joined separated
  have succeeds : joined.result = .ok uploads := by decide +kernel
  exact ⟨succeeds, extractUploads_separate params .keep () uploads succeeds .dali .keep ()⟩

end RequestUploads
