import RequestUploads.Proofs.Digest
import RequestUploads.Proofs.FileTree.Removal
import RequestUploads.Proofs.Handles

namespace RequestUploads
open Results

namespace FileTree

def Unreferenced (t : FileTree) (params : Params) (uploads : List Upload) (location : Location) :
    Prop :=
  ∃ file ∈ params.files, file.param ∉ referenced uploads ∧ t.LeadsToFile file.location location

def Discarded (t : FileTree) (params : Params) (uploads : List Upload) (location : Location) :
    Prop :=
  t.Unreferenced params uploads location ∧ t.refusal? .remove location = none

instance (t : FileTree) (path : String) (location : Location) :
    Decidable (t.LeadsToFile path location) :=
  decidable_of_iff
    ((match t.lookup path with
      | .ok (other, .file _) => decide (other = location)
      | .ok (_, .directory) | .error _ => false) = true)
    (by
      unfold LeadsToFile
      split
      · rename_i content found
        simp [found]
      · rename_i found
        simp [found]
      · rename_i found
        simp [found])

instance (t : FileTree) (params : Params) (uploads : List Upload) (location : Location) :
    Decidable (t.Unreferenced params uploads location) :=
  inferInstanceAs (Decidable (∃ file ∈ params.files, file.param ∉ referenced uploads ∧
    t.LeadsToFile file.location location))

instance (t : FileTree) (params : Params) (uploads : List Upload) (location : Location) :
    Decidable (t.Discarded params uploads location) :=
  inferInstanceAs (Decidable (_ ∧ _))

theorem Discarded.get? {t : FileTree} {params : Params} {uploads : List Upload}
    {location : Location} (discarded : t.Discarded params uploads location) :
    ∃ content, t.get? location = some (.file content) := by
  obtain ⟨⟨file, -, -, leads⟩, -⟩ := discarded
  exact leads.get?

end FileTree

/-! ## Content that is opened -/

section
variable {dialect : Dialect} {params : Params} {t : FileTree} {uploads : List Upload}

/-- Whatever comes of an extraction, all that it does is to delete. -/
theorem state_eq_discardAll {σ : Type} (dialect : Dialect) (files : FileManager σ)
    (params : Params) (state : σ) :
    (extractUploads dialect files params state).state =
      (files.discardAll (extractUploads dialect files params state).attempts state).2 := by
  cases result : (extractUploads dialect files params state).result with
  | error refusal =>
      rw [extractUploads_of_error result]
      rfl
  | ok uploads => rw [extractUploads_of_uploads (readings_of_result result)]

theorem mem_attempts_iff {σ : Type} {files : FileManager σ} {state : σ}
    (succeeds : (extractUploads dialect files params state).result = .ok uploads)
    (found : uploads ≠ []) (file : StagedFile) :
    file ∈ (extractUploads dialect files params state).attempts ↔
      file ∈ params.files ∧ file.param ∉ referenced uploads := by
  rw [(extractUploads_of_found succeeds found).1, List.mem_filter, params.files_perm.mem_iff,
    unused, decide_eq_true_iff]

end

end RequestUploads
