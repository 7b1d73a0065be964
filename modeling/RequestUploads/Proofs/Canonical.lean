import RequestUploads.Proofs.Reachable
import RequestUploads.Proofs.Remainder

/-!
# The form of parameters after an extraction

An extraction that finds uploads puts them at the end, under the one reserved name, after what
pruning leaves of the other parameters (`Params.Canonical`, `extractUploads_canonical`).  Names that
differ are what this rests on: collecting what is left would join the values of a name that stands
there twice.  Parameters of that form are read as the uploads in them and have nothing left to
prune, so another extraction changes nothing (`extractUploads_again`).
-/

namespace RequestUploads

/-- What an extraction that finds uploads makes of parameters: the uploads are the last entry and
the only reserved one; before it stand the other entries, in their order, with those leaves only
that are kept and without the entries that have none. -/
structure Params.Canonical (before : Params) (uploads : List Upload) (after : Params) : Prop where
  nodup : after.names.Nodup
  entries : after.entries =
    after.unreserved.entries ++ [(uploadParam, .list (uploads.map .upload))]
  order : after.unreserved.names.Sublist before.unreserved.names
  tight : ∀ entry ∈ after.unreserved.entries, entry.2.Tight
  leaves : after.unreserved.entries.map (fun entry => (entry.1, entry.2.leaves)) =
    (before.unreserved.entries.map fun entry =>
      (entry.1, entry.2.leaves.filter (Value.isKept (referenced uploads)))).filter (!·.2.isEmpty)

/-! ## Uploads after what is left -/

theorem nodup_names_left {params : Params} (nodup : params.names.Nodup) (used : List String) :
    ((pruneEntries used params.unreserved.entries).1.map (·.1)).Nodup :=
  (Params.nodup_retain nodup _).sublist (pruneEntries_names used _)

theorem not_reserved_of_mem_left {params : Params} {used : List String} {entry : String × Value}
    (member : entry ∈ (pruneEntries used params.unreserved.entries).1) :
    isReserved entry.1 = false := by
  obtain ⟨before, inParams, same, -⟩ := exists_of_mem_pruneEntries member
  rw [← same]
  exact not_reserved_of_mem_unreserved (List.mem_map.2 ⟨before, inParams, rfl⟩)

theorem unreserved_of_entries {params : Params} {left : List (String × Value)} {value : Value}
    (entries : params.entries = left ++ [(uploadParam, value)])
    (unreserved : ∀ entry ∈ left, isReserved entry.1 = false) :
    params.unreserved.entries = left := by
  have reserved : isReserved uploadParam = true := by decide
  have all : left.filter (fun entry => !isReserved entry.1) = left :=
    List.filter_eq_self.2 fun entry member => by simp [unreserved entry member]
  rw [Params.unreserved, Params.retain, entries, List.filter_append, all]
  simp [reserved]

theorem ofGathered_entries_of_nodup {params : Params} (nodup : params.names.Nodup)
    (gathered : Gathered) :
    (Extraction.ofGathered params gathered).params.entries =
      (pruneEntries (referenced gathered.uploads) params.unreserved.entries).1 ++
        [(uploadParam, .list (gathered.uploads.map .upload))] := by
  have collected := Params.collect_of_nodup (nodup_names_left nodup (referenced gathered.uploads))
  rw [← insert_uploads fun _ => not_reserved_of_mem_left, ← collected]
  rfl

theorem canonical_ofGathered {params : Params} (nodup : params.names.Nodup)
    (gathered : Gathered) :
    params.Canonical gathered.uploads (Extraction.ofGathered params gathered).params := by
  have entries := ofGathered_entries_of_nodup nodup gathered
  have left := unreserved_of_entries entries fun _ => not_reserved_of_mem_left
  constructor
  · exact Params.nodup_alter (Params.nodup_collect _) _
  · rw [left, entries]
  · rw [Params.names, left]
    exact pruneEntries_names _ _
  · rw [left]
    exact fun _ => tight_of_mem_pruneEntries
  · rw [left]
    exact pruneEntries_leaves _ _

section
variable {σ : Type} {dialect : Dialect} {files : FileManager σ} {params : Params} {state : σ}

theorem canonical_of_result {uploads : List Upload} (nodup : params.names.Nodup)
    (succeeds : (extractUploads dialect files params state).result = .ok uploads)
    (found : uploads ≠ []) :
    params.Canonical uploads (extractUploads dialect files params state).params := by
  have read := readings_of_result succeeds
  rw [extractUploads_of_uploads read, ofUploads_of_ne_nil read found]
  exact canonical_ofGathered nodup ⟨uploads, params.reservedFiles⟩

theorem unreserved_of_result
    (nothing : (extractUploads dialect files params state).result = .ok []) :
    (extractUploads dialect files params state).params = params.unreserved := by
  rw [extractUploads_of_uploads (readings_of_result nothing)]
  exact (ofUploads_nil params).1

end

theorem extractUploads_canonical {σ : Type} {params : Params} (reachable : params.Reachable)
    (dialect : Dialect) (files : FileManager σ) (state : σ) (uploads : List Upload)
    (succeeds : (extractUploads dialect files params state).result = .ok uploads) :
    let after := (extractUploads dialect files params state).params
    (uploads ≠ [] → params.Canonical uploads after) ∧
      (uploads = [] → after = params.unreserved) := by
  constructor
  · exact canonical_of_result reachable.nodup succeeds
  · rintro rfl
    exact unreserved_of_result succeeds

theorem extractUploads_canonical_nested :
    let file : StagedFile := ⟨"f", "/staging/f", none, none, none⟩
    let spare : StagedFile := ⟨"h", "/staging/h", none, none, none⟩
    let uploads : List Upload := [⟨"a", .inline file⟩, ⟨"b", .inline file⟩]
    let params := Params.collect
      [("q", .text "1"), ("Upload", .list [.upload ⟨"a", .inline file⟩, .file spare]),
        ("q", .list [.null, .list [], .list [.file spare, .text "2"]]), ("f", .file file),
        ("h", .list [.list [.file spare]]), ("upload", .text "b,param:f")]
    let outcome := extractUploads .dali .keep params ()
    params.Reachable ∧ outcome.result = .ok uploads ∧ params.Canonical uploads outcome.params := by
  intro file spare uploads params outcome
  have reachable : params.Reachable := .collect _
  have succeeds : outcome.result = .ok uploads := by decide +kernel
  have form := extractUploads_canonical reachable .dali .keep () uploads succeeds
  exact ⟨reachable, succeeds, form.1 (by simp [uploads])⟩

/-! ## Another extraction -/

namespace Params.Canonical

variable {before after : Params} {uploads : List Upload}

theorem isKept (form : before.Canonical uploads after) :
    ∀ entry ∈ after.unreserved.entries, ∀ leaf ∈ entry.2.leaves,
      Value.isKept (referenced uploads) leaf = true := by
  intro entry member leaf inEntry
  have listed : (entry.1, entry.2.leaves) ∈
      after.unreserved.entries.map fun entry => (entry.1, entry.2.leaves) :=
    List.mem_map.2 ⟨entry, member, rfl⟩
  rw [form.leaves] at listed
  obtain ⟨original, -, same⟩ := List.mem_map.1 (List.mem_filter.1 listed).1
  obtain ⟨-, filtered⟩ := Prod.mk.inj same
  rw [← filtered] at inEntry
  exact (List.mem_filter.1 inEntry).2

theorem pruneEntries (form : before.Canonical uploads after) :
    pruneEntries (referenced uploads) after.unreserved.entries = (after.unreserved.entries, []) :=
  pruneEntries_of _ _ fun entry member =>
    prune_of_tight (form.tight entry member) (form.isKept entry member)

theorem reservedValues (form : before.Canonical uploads after) :
    after.reservedValues = [.list (uploads.map .upload)] := by
  have none : after.unreserved.entries.filter (fun entry => isReserved entry.1) = [] := by
    refine List.filter_eq_nil_iff.2 fun entry member => ?_
    simp [not_reserved_of_mem_unreserved (List.mem_map.2 ⟨entry, member, rfl⟩)]
  have reserved : isReserved uploadParam = true := by decide
  rw [Params.reservedValues, form.entries, List.filter_append, none]
  simp [reserved]

theorem reservedLeaves (form : before.Canonical uploads after) :
    after.reservedLeaves = uploads.map .upload := by
  rw [Params.reservedLeaves, form.reservedValues, Value.leavesAll_cons, Value.leaves_list,
    Value.leavesAll_map_upload]
  exact List.append_nil _

theorem readings (form : before.Canonical uploads after) (dialect : Dialect) :
    after.readings dialect = uploads.map .ok := by
  rw [Params.readings, form.reservedLeaves, flatMap_readings_upload]

theorem reservedFiles (form : before.Canonical uploads after) : after.reservedFiles = [] := by
  rw [Params.reservedFiles, form.reservedLeaves, List.filterMap_map]
  exact List.filterMap_eq_nil_iff.2 fun _ _ => rfl

theorem ofGathered (form : before.Canonical uploads after) :
    (Extraction.ofGathered after ⟨uploads, []⟩).params = after ∧
      (Extraction.ofGathered after ⟨uploads, []⟩).deletions = [] := by
  constructor
  · have entries := ofGathered_entries_of_nodup form.nodup ⟨uploads, []⟩
    rw [form.pruneEntries, ← form.entries] at entries
    exact congrArg Params.mk entries
  · rw [ofGathered_deletions, List.nil_append, ← pruneEntries_dropped]
    exact congrArg Prod.snd form.pruneEntries

end Params.Canonical

theorem extractUploads_unreserved {σ : Type} (dialect : Dialect) (files : FileManager σ)
    (params : Params) (state : σ) :
    extractUploads dialect files params.unreserved state =
      ⟨.ok [], params.unreserved, [], [], state⟩ := by
  have none : params.unreserved.names.any isReserved = false := by
    refine List.any_eq_false.2 fun name member => ?_
    simp [not_reserved_of_mem_unreserved member]
  simp [extractUploads, extraction, none, FileManager.discardAll]

theorem Params.Canonical.extractUploads {σ : Type} {before after : Params} {uploads : List Upload}
    (form : before.Canonical uploads after) (found : uploads ≠ []) (dialect : Dialect)
    (files : FileManager σ) (state : σ) :
    let outcome := extractUploads dialect files after state
    outcome.result = .ok uploads ∧ outcome.params = after ∧ outcome.attempts = [] ∧
      outcome.state = state := by
  have read := form.readings dialect
  obtain ⟨same, nothing⟩ := form.ofGathered
  rw [extractUploads_of_uploads read, ofUploads_of_ne_nil read found, form.reservedFiles, nothing]
  exact ⟨rfl, same, rfl, rfl⟩

theorem extractUploads_again {σ τ : Type} {params : Params} (reachable : params.Reachable)
    (dialect : Dialect) (files : FileManager σ) (state : σ) (uploads : List Upload)
    (succeeds : (extractUploads dialect files params state).result = .ok uploads)
    (again : Dialect) (others : FileManager τ) (start : τ) :
    let first := extractUploads dialect files params state
    let second := extractUploads again others first.params start
    second.result = .ok uploads ∧ second.params = first.params ∧ second.attempts = [] ∧
      second.state = start := by
  intro first second
  by_cases found : uploads = []
  · subst found
    have dropped : first.params = params.unreserved := unreserved_of_result succeeds
    simp only [second, dropped, extractUploads_unreserved, and_self]
  · have form := canonical_of_result reachable.nodup succeeds found
    exact form.extractUploads found again others start

theorem extractUploads_again_mixed :
    let file : StagedFile := ⟨"f", "/staging/f", none, none, none⟩
    let spare : StagedFile := ⟨"h", "/staging/h", none, none, none⟩
    let uploads : List Upload := [⟨"a", .inline file⟩, ⟨"b", .inline file⟩, ⟨"c", .inline file⟩]
    let params := Params.collect
      [("h", .list [.null, .file spare, .list [.list [.text "1"], .list []]]),
        ("upload", .list [.upload ⟨"a", .inline file⟩, .list [.file spare, .text " "]]),
        ("f", .file file), ("UPLOAD", .text "b,param:f;c,param:f")]
    let refusing : FileManager Unit := { delete := fun _ state => (⟨some "read-only", []⟩, state) }
    let first := extractUploads .tap refusing params ()
    let second := extractUploads .dali .keep first.params ()
    params.Reachable ∧ first.result = .ok uploads ∧ first.attempts = [spare, spare] ∧
      second.result = .ok uploads ∧ second.params = first.params ∧ second.attempts = [] ∧
      second.state = () := by
  intro file spare uploads params refusing first second
  have reachable : params.Reachable := .collect _
  have succeeds : first.result = .ok uploads := by decide +kernel
  have attempted : first.attempts = [spare, spare] := by decide +kernel
  exact ⟨reachable, succeeds, attempted,
    extractUploads_again reachable .tap refusing () uploads succeeds .dali .keep ()⟩

end RequestUploads
