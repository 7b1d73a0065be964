import RequestUploads.Proofs.Deletions
import RequestUploads.Proofs.FileTree.Paths

namespace RequestUploads.FileTree

/-- The second tree is the first one without what is at some locations. -/
structure Without (gone : Location → Prop) (t u : FileTree) : Prop where
  working : u.working = t.working
  refusals : u.refusals = t.refusals
  absent : ∀ location, gone location → u.get? location = none
  kept : ∀ location, ¬gone location → u.get? location = t.get? location

namespace Without

variable {gone : Location → Prop} {t u : FileTree}

theorem sameDirectories (without : Without gone t u)
    (files : ∀ location, gone location → ∃ content, t.get? location = some (.file content)) :
    t.SameDirectories u := by
  refine ⟨without.working, without.refusals, fun location => ?_⟩
  by_cases isGone : gone location
  · obtain ⟨content, isFile⟩ := files location isGone
    simp [without.absent location isGone, isFile]
  · rw [without.kept location isGone]

theorem lookup (without : Without gone t u)
    (files : ∀ location, gone location → ∃ content, t.get? location = some (.file content))
    {path : String} {location : Location} {node : Node} :
    u.lookup path = .ok (location, node) ↔
      t.lookup path = .ok (location, node) ∧ ¬gone location := by
  rw [lookup_eq_ok_iff, lookup_eq_ok_iff, (without.sameDirectories files).locate]
  by_cases isGone : gone location
  · simp [without.absent location isGone, isGone]
  · simp [without.kept location isGone, isGone]

theorem leadsToFile (without : Without gone t u)
    (files : ∀ location, gone location → ∃ content, t.get? location = some (.file content))
    {path : String} {location : Location} :
    u.LeadsToFile path location ↔ t.LeadsToFile path location ∧ ¬gone location := by
  simp only [LeadsToFile, without.lookup files, exists_and_right]

end Without

/-! ## One file -/

def Removes (t : FileTree) (path : String) (location : Location) : Prop :=
  t.LeadsToFile path location ∧ t.refusal? .remove location = none

theorem find?_filter_self (location : Location) (nodes : List (Location × Node)) :
    find? location (nodes.filter (·.1 ≠ location)) = none := by
  induction nodes with
  | nil => rfl
  | cons entry nodes ih =>
      by_cases same : entry.1 = location
      · simpa [same] using ih
      · simpa [find?, same] using ih

theorem get?_drop_self {t : FileTree} {location : Location} (inner : location ≠ []) :
    (t.drop location).get? location = none := by
  rw [get?, if_neg inner]
  exact find?_filter_self location t.nodes

theorem ne_nil_of_get?_file {t : FileTree} {location : Location} {content : List UInt8}
    (isFile : t.get? location = some (.file content)) : location ≠ [] := by
  rintro rfl
  cases isFile

theorem ne_nil_of_free {t : FileTree} {location : Location} (free : t.get? location = none) :
    location ≠ [] := by
  rintro rfl
  cases free

theorem LeadsToFile.get? {t : FileTree} {path : String} {location : Location}
    (leads : t.LeadsToFile path location) :
    ∃ content, t.get? location = some (.file content) := by
  obtain ⟨content, found⟩ := leads
  exact ⟨content, (lookup_eq_ok_iff.1 found).2.1⟩

theorem Removes.get? {t : FileTree} {path : String} {location : Location}
    (removes : t.Removes path location) : ∃ content, t.get? location = some (.file content) :=
  removes.1.get?

theorem remove_of_leads {t : FileTree} {path : String} {location : Location}
    (leads : t.LeadsToFile path location) :
    t.remove path = (t.permit .remove location).map fun _ => t.drop location := by
  obtain ⟨content, found⟩ := leads
  rw [remove, found]
  cases permitted : t.permit .remove location with
  | ok done => simp [permitted, Except.map]
  | error failure => simp [permitted, Except.map]

theorem remove_cases (t : FileTree) (path : String) :
    (∃ location, t.Removes path location ∧ t.remove path = .ok (t.drop location)) ∨
      (∀ location, ¬t.Removes path location) ∧ ∃ failure, t.remove path = .error failure := by
  by_cases isFile : ∃ location, t.LeadsToFile path location
  · obtain ⟨location, leads⟩ := isFile
    rw [remove_of_leads leads]
    cases permitted : t.refusal? .remove location with
    | none =>
        rw [permit_eq_ok_iff.2 permitted]
        exact .inl ⟨location, ⟨leads, permitted⟩, rfl⟩
    | some reason =>
        rw [permit_eq_error_iff.2 ⟨reason, permitted, rfl⟩]
        refine .inr ⟨?_, _, rfl⟩
        rintro other ⟨leadsOther, free⟩
        rw [← leads.unique leadsOther, permitted] at free
        cases free
  · refine .inr ⟨fun location removes => isFile ⟨location, removes.1⟩, ?_⟩
    cases removed : t.remove path with
    | error failure => exact ⟨failure, rfl⟩
    | ok u =>
        exfalso
        unfold remove at removed
        cases found : t.lookup path with
        | error failure => simp [found] at removed
        | ok entry =>
            obtain ⟨location, node⟩ := entry
            cases node with
            | file content => exact isFile ⟨location, content, found⟩
            | directory => simp [found, permit_bind_eq_ok_iff] at removed

theorem without_drop {t : FileTree} {path : String} {location : Location}
    (removes : t.Removes path location) : Without (t.Removes path) t (t.drop location) := by
  obtain ⟨content, isFile⟩ := removes.get?
  refine ⟨rfl, rfl, ?_, ?_⟩
  · intro other removesOther
    rw [← removes.1.unique removesOther.1]
    exact get?_drop_self (ne_nil_of_get?_file isFile)
  · intro other free
    refine get?_drop_of_ne ?_
    rintro rfl
    exact free removes

theorem without_delete (file : StagedFile) (t : FileTree) :
    Without (t.Removes file.location) t (FileManager.disk.delete file t).2 := by
  rcases t.remove_cases file.location with ⟨location, removes, removed⟩ | ⟨none, failure, failed⟩
  · simp only [FileManager.disk, removed]
    exact without_drop removes
  · simp only [FileManager.disk, failed]
    exact ⟨rfl, rfl, fun location removes => absurd removes (none location), fun _ _ => rfl⟩

/-! ## One file after the other -/

def Holding (t : FileTree) (files : List StagedFile) (location : Location) : Prop :=
  ∃ file ∈ files, t.Removes file.location location

theorem Without.removes {gone : Location → Prop} {t u : FileTree} (without : Without gone t u)
    (files : ∀ location, gone location → ∃ content, t.get? location = some (.file content))
    {path : String} {location : Location} :
    u.Removes path location ↔ t.Removes path location ∧ ¬gone location := by
  rw [Removes, Removes, without.leadsToFile files, refusal?_congr without.refusals,
    and_right_comm]

theorem without_discardAll (files : List StagedFile) (t : FileTree) :
    Without (t.Holding files) t (FileManager.disk.discardAll files t).2 := by
  induction files generalizing t with
  | nil =>
      refine ⟨rfl, rfl, ?_, fun _ _ => rfl⟩
      rintro location ⟨file, impossible, -⟩
      cases impossible
  | cons file files ih =>
      have first := without_delete file t
      have later := ih (FileManager.disk.delete file t).2
      have removes (path : String) (location : Location) :
          (FileManager.disk.delete file t).2.Removes path location ↔
            t.Removes path location ∧ ¬t.Removes file.location location :=
        first.removes fun _ gone => gone.get?
      refine ⟨later.working.trans first.working, later.refusals.trans first.refusals, ?_, ?_⟩
      · -- a location is taken away by the first removal, or its file is still named later
        rintro location ⟨other, member, removesOther⟩
        by_cases again : (FileManager.disk.delete file t).2.Holding files location
        · exact later.absent location again
        · refine (later.kept location again).trans (first.absent location ?_)
          by_contra notFirst
          rcases List.mem_cons.1 member with rfl | inFiles
          · exact notFirst removesOther
          · exact again ⟨other, inFiles, (removes _ _).2 ⟨removesOther, notFirst⟩⟩
      · intro location free
        refine (later.kept location ?_).trans (first.kept location ?_)
        · rintro ⟨other, inFiles, removesOther⟩
          exact free ⟨other, List.mem_cons_of_mem _ inFiles, ((removes _ _).1 removesOther).1⟩
        · exact fun isFirst => free ⟨file, List.mem_cons_self, isFirst⟩

theorem find?_filter_isPrefixOf (location other : Location)
    (nodes : List (Location × Node)) :
    find? other (nodes.filter fun entry => !location.isPrefixOf entry.1) =
      if location <+: other then none else find? other nodes := by
  induction nodes with
  | nil => simp [find?]
  | cons entry nodes ih =>
      by_cases below : location <+: entry.1
      · rw [List.filter_cons_of_neg (by simpa using below), ih, find?]
        split_ifs with prefixed same
        · rfl
        · exact absurd (same ▸ below) prefixed
        · rfl
      · rw [List.filter_cons_of_pos (by simpa [← Bool.not_eq_true] using below), find?, find?, ih]
        split_ifs with same prefixed
        · exact absurd (same ▸ prefixed) below
        all_goals rfl

theorem get?_dropAll {location : Location} (inner : location ≠ []) (t : FileTree)
    (other : Location) :
    (t.dropAll location).get? other = if location <+: other then none else t.get? other := by
  rw [get?, get?, dropAll, find?_filter_isPrefixOf]
  split_ifs with root prefixed
  · exact absurd (List.prefix_nil.1 (root ▸ prefixed)) inner
  all_goals rfl

end RequestUploads.FileTree
