import RequestUploads.Proofs.Pruning
import RequestUploads.Proofs.References
import RequestUploads.Proofs.Submissions

namespace RequestUploads
open Results

/-! ## Values of one name -/

/-- What is held of the values submitted under a name: one value as it is, and several in a list,
which is the first of them with the others at its end if that is a list. -/
def Value.held : List Value → Option Value
  | [] => none
  | [value] => some value
  | .list items :: later => some (.list (items ++ later))
  | values => some (.list values)

theorem Value.foldl_joined_list (items later : List Value) :
    later.foldl joined (.list items) = .list (items ++ later) := by
  induction later generalizing items with
  | nil => simp
  | cons value later ih => rw [List.foldl_cons, joined, ih, List.append_assoc]; rfl

theorem Value.collected_cons_of_flat {first : Value} (flat : ∀ items, first ≠ .list items)
    (next : Value) (later : List Value) :
    collected (first :: next :: later) = some (.list (first :: next :: later)) := by
  have begins : first.joined next = .list [first, next] := by
    cases first with
    | list items => exact absurd rfl (flat items)
    | null | text _ | file _ | upload _ => rfl
  rw [collected, List.foldl_cons, begins, foldl_joined_list]
  rfl

theorem Value.collected_eq_held (values : List Value) : collected values = held values := by
  match values with
  | [] => rfl
  | [value] => rfl
  | first :: next :: later =>
      cases first with
      | list items => rw [collected, foldl_joined_list, held]; simp
      | null | text _ | file _ | upload _ => exact collected_cons_of_flat (by simp) next later

/-! ## Leaves -/

theorem Value.leaves_foldl_joined (first : Value) (later : List Value) :
    (later.foldl joined first).leaves = first.leaves ++ leavesAll later := by
  induction later generalizing first with
  | nil => simp
  | cons next later ih => rw [List.foldl_cons, ih, leaves_joined, leavesAll_cons, List.append_assoc]

theorem Value.leaves_collected (values : List Value) :
    (collected values).elim [] leaves = leavesAll values := by
  cases values with
  | nil => rfl
  | cons first later => exact leaves_foldl_joined first later

theorem Value.leaves_of_collected {values : List Value} {value : Value}
    (made : collected values = some value) : value.leaves = leavesAll values := by
  rw [← leaves_collected, made]
  rfl

namespace Params

theorem collect_holds_all (submissions : List (String × Value)) :
    (collect submissions).names = (submissions.map (·.1)).eraseDups ∧
      ∀ name,
        (collect submissions).get? name = Value.held (submitted name submissions) ∧
        ((collect submissions).get? name).elim [] Value.leaves =
          (submitted name submissions).flatMap Value.leaves := by
  refine ⟨names_collect submissions, fun name => ⟨?_, ?_⟩⟩
  · rw [get?_collect, Value.collected_eq_held]
  · rw [get?_collect, Value.leaves_collected, Value.leavesAll_eq_flatMap]

/-- A list takes later submissions at its end, a list that is submitted later stays whole. -/
example : (collect [("a", .list [.null]), ("b", .null), ("a", .list [.null])]).entries =
    [("a", .list [.null, .list [.null]]), ("b", .null)] := rfl

theorem get?_of_mem {params : Params} (nodup : params.names.Nodup) {name : String} {value : Value}
    (member : (name, value) ∈ params.entries) : params.get? name = some value := by
  rw [entries_eq_filterMap nodup] at member
  obtain ⟨other, -, found⟩ := List.mem_filterMap.1 member
  obtain ⟨held, here, same⟩ := Option.map_eq_some_iff.1 found
  rw [Prod.mk.injEq] at same
  rw [← same.1, ← same.2, here]

theorem exists_submission_of_leaf {submissions : List (String × Value)} {entry : String × Value}
    (member : entry ∈ (collect submissions).entries) {leaf : Value} (held : leaf ∈ entry.2.leaves) :
    ∃ submission ∈ submissions, leaf ∈ submission.2.leaves := by
  have found := get?_of_mem (nodup_collect submissions) member
  rw [get?_collect] at found
  rw [Value.leaves_of_collected found, Value.leavesAll_eq_flatMap, List.mem_flatMap] at held
  obtain ⟨value, submittedThere, inside⟩ := held
  obtain ⟨submission, kept, rfl⟩ := List.mem_map.1 submittedThere
  exact ⟨submission, (List.mem_filter.1 kept).1, inside⟩

theorem exists_submission_of_mem_files {submissions : List (String × Value)} {file : StagedFile}
    (member : file ∈ (collect submissions).files) :
    ∃ submission ∈ submissions, .file file ∈ submission.2.leaves := by
  obtain ⟨entry, inEntries, inValue⟩ := List.mem_flatMap.1 member
  obtain ⟨leaf, held, isFile⟩ := List.mem_filterMap.1 inValue
  rw [eq_file_of_file? isFile] at held
  exact exists_submission_of_leaf inEntries held

theorem flat_submitted {submissions : List (String × Value)}
    (flat : ∀ submission ∈ submissions, ∀ items, submission.2 ≠ .list items) (name : String) :
    ∀ value ∈ submitted name submissions, ∀ items, value ≠ .list items := by
  intro value member
  obtain ⟨submission, kept, rfl⟩ := List.mem_map.1 member
  exact flat submission (List.mem_filter.1 kept).1

theorem stagedFile_collect_eq_ok_iff {submissions : List (String × Value)}
    (flat : ∀ submission ∈ submissions, ∀ items, submission.2 ≠ .list items) {name : String}
    {file : StagedFile} :
    (collect submissions).stagedFile name = .ok file ↔
      lastFile? (submitted name submissions) = some file := by
  have flatThere := flat_submitted flat name
  rw [stagedFile_eq_ok_iff, get?_collect]
  match values : submitted name submissions with
  | [] => simp [Value.collected, lastFile?]
  | [value] =>
      rw [values] at flatThere
      have notList := flatThere value (by simp)
      cases value with
      | list items => exact absurd rfl (notList items)
      | null | text _ | file _ | upload _ => simp [Value.collected, lastFile?, Value.file?]
  | first :: next :: later =>
      rw [values] at flatThere
      rw [Value.collected_cons_of_flat (flatThere first (by simp))]
      simp

end Params

/-! ## Declarations -/

def declarationsIn (dialect : Dialect) (raw : String) : List String :=
  if Blank.trim raw.toList = [] then []
  else match Declaration.split dialect raw with
    | .ok declarations => declarations
    | .error _ => []

namespace Params

def reservedTexts (params : Params) : List String := params.reservedLeaves.filterMap Value.text?

def declarations (params : Params) (dialect : Dialect) : List String :=
  params.reservedTexts.flatMap (declarationsIn dialect)

end Params

end RequestUploads
