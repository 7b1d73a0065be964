import RequestUploads.Proofs.Pruning

namespace RequestUploads

namespace Value

/-- A value is a part of itself, and of each list that has an item it is a part of. -/
inductive Within (part : Value) : Value → Prop
  | self : Within part part
  | item {items : List Value} {item : Value} :
      item ∈ items → Within part item → Within part (.list items)

def Tight (value : Value) : Prop := ∀ part, Within part value → part ≠ .null ∧ part ≠ .list []

/-- Whether pruning keeps a leaf: a text, an upload or a file of a parameter in use. -/
def isKept (used : List String) : Value → Bool
  | .text _ | .upload _ => true
  | .file found => decide (found.param ∈ used)
  | .null | .list _ => false

theorem tight_list {items : List Value} (nonempty : items ≠ [])
    (each : ∀ item ∈ items, Tight item) : Tight (.list items) := by
  intro part within
  cases within with
  | self => exact ⟨by simp, by simpa using nonempty⟩
  | item member inside => exact each _ member part inside

theorem Tight.item {items : List Value} (tight : Tight (.list items)) :
    ∀ item ∈ items, Tight item :=
  fun _ member part inside => tight part (.item member inside)

theorem tight_leaf {value : Value} (leaf : ∀ items, value ≠ .list items)
    (visible : value ≠ .null) : Tight value := by
  intro part within
  cases within with
  | self => exact ⟨visible, leaf []⟩
  | item member inside => exact absurd rfl (leaf _)

theorem Tight.leaves_ne_nil {value : Value} (tight : Tight value) : value.leaves ≠ [] := by
  induction value using Value.induction with
  | null => simp
  | text content => simp
  | file found => simp
  | upload found => simp
  | list items ih =>
      obtain ⟨first, rest, rfl⟩ := List.exists_cons_of_ne_nil fun empty : items = [] =>
        (tight _ .self).2 (by rw [empty])
      rw [leaves_list, leavesAll_cons]
      have firstLeaves := ih first (by simp) (tight.item first (by simp))
      simp [firstLeaves]

end Value

open Value

/-! ## Leaves -/

theorem pruneAll_eq (used : List String) (values : List Value) :
    (pruneAll used values).1 = values.filterMap fun value => (prune used value).1 := by
  induction values with
  | nil => rfl
  | cons value values ih =>
      rw [pruneAll_cons, List.filterMap_cons, ih]
      cases (prune used value).1 <;> rfl

theorem prune_list_fst (used : List String) (items : List Value) :
    (prune used (.list items)).1 =
      if (pruneAll used items).1 = [] then none else some (.list (pruneAll used items).1) := by
  simp [prune, List.isEmpty_iff]

theorem pruneAll_leaves_of (used : List String) (values : List Value)
    (each : ∀ value ∈ values,
      leavesAll (prune used value).1.toList = value.leaves.filter (isKept used)) :
    leavesAll (pruneAll used values).1 = (leavesAll values).filter (isKept used) := by
  induction values with
  | nil => rfl
  | cons value values ih =>
      have others := ih fun other member => each other (by simp [member])
      rw [pruneAll_cons, leavesAll_cons, List.filter_append, ← each value (by simp), ← others]
      simp [leavesAll_eq_flatMap]

theorem prune_leaves (used : List String) (value : Value) :
    leavesAll (prune used value).1.toList = value.leaves.filter (isKept used) := by
  induction value using Value.induction with
  | null => rfl
  | text content => rfl
  | upload found => rfl
  | file found => by_cases inUse : found.param ∈ used <;> simp [prune, isKept, inUse]
  | list items ih =>
      have each := pruneAll_leaves_of used items ih
      rw [leaves_list, ← each, prune_list_fst]
      split_ifs with empty
      · rw [empty]
        rfl
      · simp

/-! ## Tightness -/

theorem tight_of_prune {used : List String} {value left : Value}
    (kept : (prune used value).1 = some left) : Tight left := by
  induction value using Value.induction generalizing left with
  | null => cases kept
  | text content => cases kept; exact tight_leaf (by simp) (by simp)
  | upload found => cases kept; exact tight_leaf (by simp) (by simp)
  | file found =>
      by_cases inUse : found.param ∈ used
      · simp only [prune, inUse, if_true, Option.some.injEq] at kept
        subst kept
        exact tight_leaf (by simp) (by simp)
      · simp [prune, inUse] at kept
  | list items ih =>
      rw [prune_list_fst] at kept
      split_ifs at kept with empty
      obtain rfl := Option.some.inj kept
      refine tight_list empty ?_
      intro item member
      rw [pruneAll_eq, List.mem_filterMap] at member
      obtain ⟨before, inItems, found⟩ := member
      exact ih before inItems found

theorem prune_fst_eq_none_iff {used : List String} {value : Value} :
    (prune used value).1 = none ↔ value.leaves.filter (isKept used) = [] := by
  rw [← prune_leaves]
  cases kept : (prune used value).1 with
  | none => simp
  | some left => simpa using (tight_of_prune kept).leaves_ne_nil

/-! ## Values that are pruned already -/

theorem pruneAll_of (used : List String) (values : List Value)
    (each : ∀ value ∈ values, prune used value = (some value, [])) :
    pruneAll used values = (values, []) := by
  induction values with
  | nil => rfl
  | cons value values ih =>
      rw [pruneAll_cons, each value (by simp), ih fun other member => each other (by simp [member])]
      rfl

theorem prune_of_tight {used : List String} {value : Value} (tight : Tight value)
    (kept : ∀ leaf ∈ value.leaves, isKept used leaf = true) :
    prune used value = (some value, []) := by
  induction value using Value.induction with
  | null => exact absurd rfl (tight _ .self).1
  | text content => rfl
  | upload found => rfl
  | file found =>
      have inUse : found.param ∈ used := by simpa [isKept] using kept (.file found)
      simp [prune, inUse]
  | list items ih =>
      have nonempty : items ≠ [] := fun empty => (tight _ .self).2 (by rw [empty])
      have each : pruneAll used items = (items, []) := by
        refine pruneAll_of used items fun item member => ih item member (tight.item item member) ?_
        intro leaf inItem
        refine kept leaf ?_
        rw [leaves_list, leavesAll_eq_flatMap]
        exact List.mem_flatMap.2 ⟨item, member, inItem⟩
      simp [prune, each, nonempty]

/-! ## Entries -/

theorem pruneEntries_eq (used : List String) (entries : List (String × Value)) :
    (pruneEntries used entries).1 =
      entries.filterMap fun entry => (prune used entry.2).1.map ((entry.1, ·)) := by
  induction entries with
  | nil => rfl
  | cons entry entries ih =>
      rw [pruneEntries_cons, List.filterMap_cons, ih]
      cases (prune used entry.2).1 <;> rfl

theorem exists_of_mem_pruneEntries {used : List String} {entries : List (String × Value)}
    {entry : String × Value} (member : entry ∈ (pruneEntries used entries).1) :
    ∃ before ∈ entries, before.1 = entry.1 ∧ (prune used before.2).1 = some entry.2 := by
  rw [pruneEntries_eq, List.mem_filterMap] at member
  obtain ⟨before, inEntries, kept⟩ := member
  obtain ⟨left, found, rfl⟩ := Option.map_eq_some_iff.1 kept
  exact ⟨before, inEntries, rfl, found⟩

theorem tight_of_mem_pruneEntries {used : List String} {entries : List (String × Value)}
    {entry : String × Value} (member : entry ∈ (pruneEntries used entries).1) : Tight entry.2 := by
  obtain ⟨before, -, -, kept⟩ := exists_of_mem_pruneEntries member
  exact tight_of_prune kept

/-- An entry goes exactly when none of its leaves is kept; else its leaves are those kept. -/
theorem pruneEntries_leaves (used : List String) (entries : List (String × Value)) :
    (pruneEntries used entries).1.map (fun entry => (entry.1, entry.2.leaves)) =
      (entries.map fun entry => (entry.1, entry.2.leaves.filter (isKept used))).filter
        (!·.2.isEmpty) := by
  induction entries with
  | nil => rfl
  | cons entry entries ih =>
      rw [pruneEntries_cons, List.map_append, ih, List.map_cons]
      have leaves := prune_leaves used entry.2
      cases kept : (prune used entry.2).1 with
      | none => simp [prune_fst_eq_none_iff.1 kept]
      | some left =>
          have visible := (tight_of_prune kept).leaves_ne_nil
          have same : left.leaves = entry.2.leaves.filter (isKept used) := by
            rw [← leaves, kept]
            simp
          simp [← same, visible]

theorem pruneEntries_of (used : List String) (entries : List (String × Value))
    (each : ∀ entry ∈ entries, prune used entry.2 = (some entry.2, [])) :
    pruneEntries used entries = (entries, []) := by
  induction entries with
  | nil => rfl
  | cons entry entries ih =>
      rw [pruneEntries_cons, each entry (by simp),
        ih fun other member => each other (by simp [member])]
      rfl

end RequestUploads
