import RequestUploads.Extraction
import RequestUploads.Proofs.Results
import RequestUploads.Proofs.Text
import RequestUploads.Proofs.Values

namespace RequestUploads
open Results

/-! ## Readings -/

def Value.readings (dialect : Dialect) (params : Params) : Value → List (Except UploadError Upload)
  | .upload found => [.ok found]
  | .text raw =>
      if Blank.trim raw.toList = [] then []
      else match Declaration.split dialect raw with
        | .error refusal => [.error refusal]
        | .ok declarations => declarations.map fun declaration => Upload.parse declaration params
  | .null | .file _ | .list _ => []

namespace Params

def reservedLeaves (params : Params) : List Value := Value.leavesAll params.reservedValues

def reservedFiles (params : Params) : List StagedFile :=
  params.reservedLeaves.filterMap Value.file?

def unreserved (params : Params) : Params := params.retain fun name _ => !isReserved name

def readings (params : Params) (dialect : Dialect) : List (Except UploadError Upload) :=
  params.reservedLeaves.flatMap (Value.readings dialect params)

end Params

theorem flatMap_readings_upload (dialect : Dialect) (params : Params) (uploads : List Upload) :
    (uploads.map Value.upload).flatMap (Value.readings dialect params) = uploads.map .ok := by
  rw [List.flatMap_map, List.map_eq_flatMap]
  rfl

/-! ## Gathering -/

theorem declaredUploads_eq (dialect : Dialect) (params : Params) (raw : String) :
    declaredUploads dialect params raw = ((Value.text raw).readings dialect params).mapM id := by
  simp only [declaredUploads, Value.readings, Blank.trim_eq_nil_iff]
  split_ifs with blank
  · rfl
  · cases Declaration.split dialect raw with
    | error refusal => rfl
    | ok declarations => simp [List.mapM_map]

theorem gatherAll_eq_of (dialect : Dialect) (params : Params) (values : List Value)
    (each : ∀ value ∈ values, gather dialect params value =
      ((value.leaves.flatMap (Value.readings dialect params)).mapM id).map (⟨·, value.files⟩)) :
    gatherAll dialect params values =
      (((Value.leavesAll values).flatMap (Value.readings dialect params)).mapM id).map
        (⟨·, (Value.leavesAll values).filterMap Value.file?⟩) := by
  induction values with
  | nil => rfl
  | cons value values ih =>
      have first := each value (by simp)
      have others := ih fun other member => each other (by simp [member])
      rw [gatherAll, first, others, Value.leavesAll_cons, List.flatMap_append, List.mapM_append,
        List.filterMap_append]
      cases (value.leaves.flatMap (Value.readings dialect params)).mapM id with
      | error refusal => rfl
      | ok uploads =>
          cases ((Value.leavesAll values).flatMap (Value.readings dialect params)).mapM id with
          | error refusal => rfl
          | ok later => rfl

theorem gather_eq (dialect : Dialect) (params : Params) (value : Value) :
    gather dialect params value =
      ((value.leaves.flatMap (Value.readings dialect params)).mapM id).map (⟨·, value.files⟩) := by
  induction value using Value.induction with
  | null => rfl
  | text raw =>
      rw [gather, declaredUploads_eq, Value.leaves_text, List.flatMap_singleton]
      rfl
  | file found => rfl
  | upload found => rfl
  | list items ih => exact gatherAll_eq_of dialect params items ih

theorem gatherAll_eq (dialect : Dialect) (params : Params) (values : List Value) :
    gatherAll dialect params values =
      (((Value.leavesAll values).flatMap (Value.readings dialect params)).mapM id).map
        (⟨·, (Value.leavesAll values).filterMap Value.file?⟩) :=
  gatherAll_eq_of dialect params values fun value _ => gather_eq dialect params value

/-! ## Extraction -/

/-- The extraction of some uploads, of whatever they were read from. -/
def Extraction.ofUploads (params : Params) (uploads : List Upload) : Extraction :=
  if params.names.any isReserved then
    if uploads.isEmpty then .ofNone params params.reservedFiles
    else .ofGathered params ⟨uploads, params.reservedFiles⟩
  else ⟨[], params, [], []⟩

theorem reservedValues_cons_of_reserved {key : String} (reserved : isReserved key = true)
    (value : Value) (entries : List (String × Value)) :
    Params.reservedValues ⟨(key, value) :: entries⟩ = value :: Params.reservedValues ⟨entries⟩ := by
  simp [Params.reservedValues, reserved]

theorem reservedValues_cons_of_unreserved {key : String} (unreserved : ¬isReserved key = true)
    (value : Value) (entries : List (String × Value)) :
    Params.reservedValues ⟨(key, value) :: entries⟩ = Params.reservedValues ⟨entries⟩ := by
  simp [Params.reservedValues, unreserved]

theorem ofUploads_congr {params others : Params} (uploads : List Upload)
    (reserved : params.names.any isReserved = true)
    (otherReserved : others.names.any isReserved = true)
    (unreserved : others.unreserved = params.unreserved)
    (files : others.reservedFiles = params.reservedFiles) :
    Extraction.ofUploads others uploads = Extraction.ofUploads params uploads := by
  rw [Params.unreserved, Params.unreserved] at unreserved
  unfold Extraction.ofUploads Extraction.ofNone Extraction.ofGathered
  rw [otherReserved, reserved, unreserved, files]
  rfl

theorem reservedValues_eq_nil {params : Params} (none : params.names.any isReserved = false) :
    params.reservedValues = [] := by
  simp only [Params.names, List.any_map, List.any_eq_false, Function.comp_apply] at none
  simpa [Params.reservedValues, List.filter_eq_nil_iff] using none

theorem readings_eq_nil {params : Params} (none : params.names.any isReserved = false)
    (dialect : Dialect) : params.readings dialect = [] := by
  simp [Params.readings, Params.reservedLeaves, reservedValues_eq_nil none]

theorem extraction_eq (dialect : Dialect) (params : Params) :
    extraction dialect params =
      ((params.readings dialect).mapM id).map (Extraction.ofUploads params) := by
  unfold extraction Extraction.ofUploads
  split_ifs with reserved
  · rw [gatherAll_eq, Params.readings, Params.reservedLeaves]
    cases ((Value.leavesAll params.reservedValues).flatMap
        (Value.readings dialect params)).mapM id with
    | error refusal => rfl
    | ok uploads => rfl
  · rw [readings_eq_nil (by simpa using reserved)]
    rfl

theorem ofUploads_uploads {params : Params} {dialect : Dialect} {uploads : List Upload}
    (read : params.readings dialect = uploads.map .ok) :
    (Extraction.ofUploads params uploads).uploads = uploads := by
  unfold Extraction.ofUploads
  split_ifs with reserved empty
  · exact (List.isEmpty_iff.1 empty).symm
  · rfl
  · rw [readings_eq_nil (by simpa using reserved)] at read
    exact (List.map_eq_nil_iff.1 read.symm).symm

theorem ofUploads_of_ne_nil {params : Params} {dialect : Dialect} {uploads : List Upload}
    (read : params.readings dialect = uploads.map .ok) (found : uploads ≠ []) :
    Extraction.ofUploads params uploads = .ofGathered params ⟨uploads, params.reservedFiles⟩ := by
  have reserved : params.names.any isReserved = true := by
    by_contra none
    rw [readings_eq_nil (Bool.eq_false_iff.2 none)] at read
    exact found (List.map_eq_nil_iff.1 read.symm)
  rw [Extraction.ofUploads, if_pos reserved, if_neg (by simpa using found)]

theorem ofUploads_nil (params : Params) :
    (Extraction.ofUploads params []).params = params.unreserved ∧
      (Extraction.ofUploads params []).deletions = [] := by
  unfold Extraction.ofUploads
  split_ifs with reserved empty
  · exact ⟨rfl, rfl⟩
  · exact absurd rfl empty
  · refine ⟨?_, rfl⟩
    have none : ∀ entry ∈ params.entries, (!isReserved entry.1) = true := by
      simpa [Params.names] using reserved
    rw [Params.unreserved, Params.retain, List.filter_eq_self.2 none]

section
variable {σ : Type} {dialect : Dialect} {files : FileManager σ} {params : Params} {state : σ}

theorem extractUploads_of_uploads {uploads : List Upload}
    (read : params.readings dialect = uploads.map .ok) :
    extractUploads dialect files params state =
      ⟨.ok uploads, (Extraction.ofUploads params uploads).params,
        (Extraction.ofUploads params uploads).deletions,
        (files.discardAll (Extraction.ofUploads params uploads).deletions state).1 ++
          (Extraction.ofUploads params uploads).closing,
        (files.discardAll (Extraction.ofUploads params uploads).deletions state).2⟩ := by
  simp [extractUploads, extraction_eq, mapM_id_eq_ok_iff.2 read, ofUploads_uploads read]

theorem extractUploads_of_refusal {before : List Upload} {refusal : UploadError}
    {later : List (Except UploadError Upload)}
    (read : params.readings dialect = before.map Except.ok ++ Except.error refusal :: later) :
    extractUploads dialect files params state = ⟨.error refusal, params, [], [], state⟩ := by
  simp [extractUploads, extraction_eq, mapM_id_eq_error_iff.2 ⟨before, later, read⟩]

end

theorem extractUploads_result {σ : Type} (dialect : Dialect) (files : FileManager σ)
    (params : Params) (state : σ) :
    (extractUploads dialect files params state).result = (params.readings dialect).mapM id := by
  rcases all_ok_or_first_failure (params.readings dialect) with
    ⟨uploads, read⟩ | ⟨before, refusal, later, read⟩
  · rw [extractUploads_of_uploads read, mapM_id_eq_ok_iff.2 read]
  · rw [extractUploads_of_refusal read, mapM_id_eq_error_iff.2 ⟨before, later, read⟩]

theorem readings_of_result {σ : Type} {dialect : Dialect} {files : FileManager σ} {params : Params}
    {state : σ} {uploads : List Upload}
    (succeeds : (extractUploads dialect files params state).result = .ok uploads) :
    params.readings dialect = uploads.map .ok := by
  rwa [extractUploads_result, mapM_id_eq_ok_iff] at succeeds

theorem extractUploads_of_error {σ : Type} {dialect : Dialect} {files : FileManager σ}
    {params : Params} {state : σ} {refusal : UploadError}
    (result : (extractUploads dialect files params state).result = .error refusal) :
    extractUploads dialect files params state = ⟨.error refusal, params, [], [], state⟩ := by
  rw [extractUploads_result] at result
  obtain ⟨before, later, read⟩ := mapM_id_eq_error_iff.1 result
  exact extractUploads_of_refusal read

end RequestUploads
