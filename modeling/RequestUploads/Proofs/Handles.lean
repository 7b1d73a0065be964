import Mathlib.Data.List.Perm.Basic
import RequestUploads.Proofs.Canonical
import RequestUploads.Proofs.Deletions

/-!
# What becomes of each staged file

An extraction that finds uploads decides about a file by the parameter it came with, not by the file
itself (`extractUploads_accounts`).  If no upload refers to that parameter, the file is gone
afterwards and its deletion was tried once for each time it occurred.  Else it is not deleted, and
it stays wherever it occurred outside the reserved parameters, also if the uploads are of other
files of the same parameter (`not_accounts_by_file`).
-/

namespace RequestUploads
open Value

/-! ## Files in reserved parameters and in others -/

theorem Params.reservedFiles_eq (params : Params) :
    params.reservedFiles =
      Params.files ⟨params.entries.filter fun entry => isReserved entry.1⟩ := by
  simp only [Params.reservedFiles, Params.reservedLeaves, Params.reservedValues, Params.files,
    leavesAll_eq_flatMap, List.filterMap_flatMap, List.flatMap_map]
  rfl

theorem Params.files_perm (params : Params) :
    (params.reservedFiles ++ params.unreserved.files).Perm params.files := by
  rw [Params.reservedFiles_eq, Params.files, Params.files, ← List.flatMap_append]
  exact (List.filter_append_perm _ params.entries).flatMap_right _

/-! ## Files that are left -/

theorem files_filter_isKept (used : List String) (leaves : List Value) :
    (leaves.filter (isKept used)).filterMap file? =
      (leaves.filterMap file?).filter fun file => !unused used file := by
  rw [List.filterMap_filter, List.filter_filterMap]
  refine List.filterMap_congr fun leaf _ => ?_
  cases leaf with
  | file found =>
      by_cases inUse : found.param ∈ used <;> simp [isKept, file?, unused, inUse, Option.filter]
  | null | text _ | upload _ | list _ => simp [file?]

theorem files_prune (used : List String) (value : Value) :
    (prune used value).1.toList.flatMap files =
      value.files.filter fun file => !unused used file := by
  rw [files, ← files_filter_isKept, ← prune_leaves, leavesAll_eq_flatMap, List.filterMap_flatMap]
  rfl

theorem files_pruneEntries (used : List String) (entries : List (String × Value)) :
    Params.files ⟨(pruneEntries used entries).1⟩ =
      (Params.files ⟨entries⟩).filter fun file => !unused used file := by
  induction entries with
  | nil => rfl
  | cons entry entries ih =>
      simp only [Params.files] at ih ⊢
      rw [pruneEntries_cons, List.flatMap_append, ih, List.flatMap_cons, List.filter_append,
        ← files_prune]
      cases (prune used entry.2).1 <;> simp

theorem files_of_result {σ : Type} {dialect : Dialect} {files : FileManager σ} {params : Params}
    {state : σ} {uploads : List Upload} (nodup : params.names.Nodup)
    (succeeds : (extractUploads dialect files params state).result = .ok uploads)
    (found : uploads ≠ []) :
    (extractUploads dialect files params state).params.files =
      params.unreserved.files.filter fun file => !unused (referenced uploads) file := by
  have read := readings_of_result succeeds
  rw [extractUploads_of_uploads read, ofUploads_of_ne_nil read found]
  simp only [Params.files, ofGathered_entries_of_nodup nodup, List.flatMap_append]
  have noFiles : Value.files (.list (uploads.map .upload)) = [] := by
    rw [Value.files, leaves_list, leavesAll_map_upload, List.filterMap_map]
    exact List.filterMap_eq_nil_iff.2 fun _ _ => rfl
  have left := files_pruneEntries (referenced uploads) params.unreserved.entries
  simpa [noFiles, Params.files] using left

/-! ## Each file -/

theorem extractUploads_accounts {σ : Type} {params : Params} (reachable : params.Reachable)
    (dialect : Dialect) (files : FileManager σ) (state : σ) (uploads : List Upload)
    (succeeds : (extractUploads dialect files params state).result = .ok uploads)
    (found : uploads ≠ []) :
    let outcome := extractUploads dialect files params state
    ∀ file,
      (file.param ∉ referenced uploads →
        file ∉ outcome.params.files ∧ outcome.attempts.count file = params.files.count file) ∧
      (file.param ∈ referenced uploads →
        outcome.params.files.count file = params.unreserved.files.count file ∧
          outcome.attempts.count file = 0) := by
  intro outcome file
  have left : outcome.params.files = _ := files_of_result reachable.nodup succeeds found
  have attempted : outcome.attempts = _ := (extractUploads_of_found succeeds found).1
  rw [left, attempted]
  constructor
  · intro unreferenced
    have dropped : unused (referenced uploads) file = true := by simp [unused, unreferenced]
    constructor
    · simp [dropped]
    · rw [List.count_filter dropped]
      exact params.files_perm.count_eq file
  · intro inUse
    have kept : unused (referenced uploads) file = false := by simp [unused, inUse]
    constructor
    · rw [List.count_filter]
      simp [kept]
    · rw [List.count_eq_zero]
      simp [kept]

theorem extractUploads_accounts_siblings :
    let first : StagedFile := ⟨"f", "/staging/1", none, none, none⟩
    let last : StagedFile := ⟨"f", "/staging/2", none, none, none⟩
    let spare : StagedFile := ⟨"h", "/staging/3", none, none, none⟩
    let uploads : List Upload := [⟨"t", .inline last⟩]
    let params := Params.collect
      [("UPLOAD", .list [.text "t,param:f", .file first, .list [.file spare]]), ("f", .file first),
        ("f", .file last), ("h", .list [.null, .file spare])]
    let outcome := extractUploads .tap .keep params ()
    params.Reachable ∧ outcome.result = .ok uploads ∧ uploads ≠ [] ∧
      ∀ file,
        (file.param ∉ referenced uploads →
          file ∉ outcome.params.files ∧ outcome.attempts.count file = params.files.count file) ∧
        (file.param ∈ referenced uploads →
          outcome.params.files.count file = params.unreserved.files.count file ∧
            outcome.attempts.count file = 0) := by
  intro first last spare uploads params outcome
  have reachable : params.Reachable := .collect _
  have succeeds : outcome.result = .ok uploads := by decide +kernel
  have found : uploads ≠ [] := by simp [uploads]
  exact ⟨reachable, succeeds, found,
    extractUploads_accounts reachable .tap .keep () uploads succeeds found⟩

/-- A file that no upload is of may be neither gone nor deleted: the last file of a parameter is the
one that is referred to, and the others stay with it. -/
theorem not_accounts_by_file :
    ¬∀ (params : Params), params.Reachable →
      ∀ (dialect : Dialect) (files : FileManager Unit) (state : Unit) (uploads : List Upload),
        (extractUploads dialect files params state).result = .ok uploads → uploads ≠ [] →
        ∀ file ∈ params.files, (∀ upload ∈ uploads, upload.file? ≠ some file) →
          file ∉ (extractUploads dialect files params state).params.files ∧
            (extractUploads dialect files params state).attempts.count file =
              params.files.count file := by
  intro accounted
  let first : StagedFile := ⟨"f", "/staging/1", none, none, none⟩
  let last : StagedFile := ⟨"f", "/staging/2", none, none, none⟩
  let params := Params.collect
    [("UPLOAD", .text "t,param:f"), ("f", .file first), ("f", .file last)]
  have succeeds :
      (extractUploads .tap .keep params ()).result = .ok [⟨"t", .inline last⟩] := by
    decide +kernel
  have gone := accounted params (.collect _) .tap .keep () _ succeeds (by simp) first
    (by decide +kernel) (by decide)
  have stays : first ∈ (extractUploads .tap .keep params ()).params.files := by decide +kernel
  exact gone.1 stays

end RequestUploads
