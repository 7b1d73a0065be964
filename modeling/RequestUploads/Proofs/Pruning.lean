import RequestUploads.Proofs.Params
import RequestUploads.Proofs.Reading

namespace RequestUploads

def unused (used : List String) (file : StagedFile) : Bool := decide (file.param ∉ used)

def Params.files (params : Params) : List StagedFile := params.entries.flatMap (·.2.files)

theorem pruneAll_cons (used : List String) (value : Value) (values : List Value) :
    pruneAll used (value :: values) =
      ((prune used value).1.toList ++ (pruneAll used values).1,
        (prune used value).2 ++ (pruneAll used values).2) :=
  rfl

theorem pruneEntries_cons (used : List String) (entry : String × Value)
    (entries : List (String × Value)) :
    pruneEntries used (entry :: entries) =
      (((prune used entry.2).1.map ((entry.1, ·))).toList ++ (pruneEntries used entries).1,
        (prune used entry.2).2 ++ (pruneEntries used entries).2) :=
  rfl

/-! ## Dropped files -/

theorem pruneAll_dropped_of (used : List String) (values : List Value)
    (each : ∀ value ∈ values, (prune used value).2 = value.files.filter (unused used)) :
    (pruneAll used values).2 =
      ((Value.leavesAll values).filterMap Value.file?).filter (unused used) := by
  induction values with
  | nil => rfl
  | cons value values ih =>
      rw [pruneAll_cons, each value (by simp), ih fun other member => each other (by simp [member]),
        Value.leavesAll_cons, List.filterMap_append, List.filter_append]
      rfl

theorem prune_dropped (used : List String) (value : Value) :
    (prune used value).2 = value.files.filter (unused used) := by
  induction value using Value.induction with
  | null => rfl
  | text _ => rfl
  | upload _ => rfl
  | file found =>
      by_cases inUse : found.param ∈ used <;>
        simp [prune, Value.files, Value.file?, unused, inUse]
  | list items ih => exact pruneAll_dropped_of used items ih

theorem pruneEntries_dropped (used : List String) (entries : List (String × Value)) :
    (pruneEntries used entries).2 = (Params.files ⟨entries⟩).filter (unused used) := by
  induction entries with
  | nil => rfl
  | cons entry entries ih =>
      rw [pruneEntries_cons, prune_dropped, ih, Params.files, Params.files, List.flatMap_cons,
        List.filter_append]

theorem pruneEntries_names (used : List String) (entries : List (String × Value)) :
    ((pruneEntries used entries).1.map (·.1)).Sublist (entries.map (·.1)) := by
  induction entries with
  | nil => exact .slnil
  | cons entry entries ih =>
      rw [pruneEntries_cons]
      cases (prune used entry.2).1 with
      | none => exact ih.cons entry.1
      | some value => exact ih.cons_cons entry.1

/-! ## The extraction of some uploads -/

theorem ofGathered_deletions (params : Params) (gathered : Gathered) :
    (Extraction.ofGathered params gathered).deletions =
      (gathered.stray ++ params.unreserved.files).filter
        (unused (referenced gathered.uploads)) := by
  rw [List.filter_append]
  exact congrArg _ (pruneEntries_dropped _ _)

theorem not_reserved_of_mem_unreserved {params : Params} {name : String}
    (member : name ∈ params.unreserved.names) : isReserved name = false := by
  obtain ⟨entry, found, rfl⟩ := List.mem_map.1 member
  simpa using (List.mem_filter.1 found).2

theorem insert_uploads {left : List (String × Value)}
    (unreserved : ∀ entry ∈ left, isReserved entry.1 = false) (value : Value) :
    (Params.insert ⟨left⟩ uploadParam value).2.entries = left ++ [(uploadParam, value)] := by
  refine Params.alter_of_not_mem ?_ _
  intro member
  obtain ⟨entry, inLeft, same⟩ := List.mem_map.1 member
  have notReserved := unreserved entry inLeft
  rw [same] at notReserved
  revert notReserved
  decide

theorem ofGathered_entries (params : Params) (gathered : Gathered) :
    ∃ left : Params, (∀ name ∈ left.names, isReserved name = false) ∧
      (Extraction.ofGathered params gathered).params.entries =
        left.entries ++ [(uploadParam, .list (gathered.uploads.map .upload))] := by
  let used := referenced gathered.uploads
  let left := Params.collect (pruneEntries used params.unreserved.entries).1
  have clean : ∀ name ∈ left.names, isReserved name = false := by
    intro name member
    have kept := (pruneEntries_names used _).subset (Params.mem_names_collect member)
    exact not_reserved_of_mem_unreserved kept
  refine ⟨left, clean, insert_uploads (fun entry member => ?_) _⟩
  exact clean entry.1 (List.mem_map.2 ⟨entry, member, rfl⟩)

theorem ofGathered_reservedValues (params : Params) (gathered : Gathered) :
    (Extraction.ofGathered params gathered).params.reservedValues =
      [.list (gathered.uploads.map .upload)] := by
  obtain ⟨left, clean, entries⟩ := ofGathered_entries params gathered
  have none : left.entries.filter (fun entry => isReserved entry.1) = [] := by
    refine List.filter_eq_nil_iff.2 fun entry member => ?_
    simp [clean entry.1 (List.mem_map.2 ⟨entry, member, rfl⟩)]
  have reserved : isReserved uploadParam = true := by decide
  rw [Params.reservedValues, entries, List.filter_append, none]
  simp [reserved]

end RequestUploads
