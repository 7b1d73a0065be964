import RequestUploads.Proofs.Collected
import RequestUploads.Proofs.Reachable

/-!
# Parameters as an ordered map

Parameters are kept as a list of entries, and nothing in that list keeps two entries from having the
same name.  The operations do: each of them makes parameters with names that differ of such
parameters (`Params.Reachable.apply`), so any run of them from no parameters does
(`Params.reachable_run`).  Names that differ are all that is needed for the entries to be an ordered
map (`Params.isOrderedMap_of_nodup`): there is only one entry under a name, so the first one that an
operation comes to is the right one, and collecting the entries once more joins no two of them.
-/

namespace RequestUploads.Params

/-! ## Runs of operations -/

inductive Operation
  | insert (name : String) (value : Value)
  | append (name : String) (value : Value)
  | remove (name : String)
  | retain (keep : String → Value → Bool)
  | collect (submissions : List (String × Value))
  | collectEntries
  | extract {σ : Type} (dialect : Dialect) (files : FileManager σ) (state : σ)

def Operation.apply : Operation → Params → Params
  | .insert name value, params => (params.insert name value).2
  | .append name value, params => params.append name value
  | .remove name, params => (params.remove name).2
  | .retain keep, params => params.retain keep
  | .collect submissions, _ => Params.collect submissions
  | .collectEntries, params => Params.collect params.entries
  | .extract dialect files state, params => (extractUploads dialect files params state).params

def run (operations : List Operation) : Params :=
  operations.foldl (fun params operation => operation.apply params) ∅

theorem run_concat (operations : List Operation) (last : Operation) :
    run (operations ++ [last]) = last.apply (run operations) := by
  simp [run]

theorem Reachable.apply {params : Params} (reachable : params.Reachable) (operation : Operation) :
    (operation.apply params).Reachable := by
  cases operation with
  | insert name value => exact .insert name value reachable
  | append name value => exact .append name value reachable
  | remove name => exact .remove name reachable
  | retain keep => exact .retain keep reachable
  | collect submissions => exact .collect submissions
  | collectEntries => exact .collect params.entries
  | extract dialect files state => exact .extract dialect files state reachable

theorem reachable_run (operations : List Operation) : (run operations).Reachable := by
  induction operations using List.reverseRecOn with
  | nil => exact .empty
  | append_singleton operations last ih =>
      rw [run_concat]
      exact ih.apply last

/-! ## The entry under a name -/

section
variable {name : String} {old : Value} {before after : List (String × Value)}

theorem alter_of_divided (absent : name ∉ before.map (·.1)) (change : Option Value → Value) :
    alter name change (before ++ (name, old) :: after) =
      before ++ (name, change (some old)) :: after := by
  induction before with
  | nil => rw [List.nil_append, alter, if_pos rfl, List.nil_append]
  | cons entry before ih =>
      have differ : entry.1 ≠ name := fun same => absent (by simp [same])
      rw [List.cons_append, alter, if_neg differ, ih fun member => absent (by simp [member])]
      rfl

theorem erase_of_divided (absent : name ∉ before.map (·.1)) :
    erase name (before ++ (name, old) :: after) = before ++ after := by
  induction before with
  | nil => rw [List.nil_append, erase, if_pos rfl, List.nil_append]
  | cons entry before ih =>
      have differ : entry.1 ≠ name := fun same => absent (by simp [same])
      rw [List.cons_append, erase, if_neg differ, ih fun member => absent (by simp [member])]
      rfl

theorem erase_of_not_mem {entries : List (String × Value)} (absent : name ∉ entries.map (·.1)) :
    erase name entries = entries := by
  induction entries with
  | nil => rfl
  | cons entry entries ih =>
      have differ : entry.1 ≠ name := fun same => absent (by simp [same])
      rw [erase, if_neg differ, ih fun member => absent (by simp [member])]

theorem not_mem_before (nodup : ((before ++ (name, old) :: after).map (·.1)).Nodup) :
    name ∉ before.map (·.1) := by
  rw [List.map_append, List.map_cons, List.nodup_append] at nodup
  exact fun member => nodup.2.2 name member name List.mem_cons_self rfl

end

theorem get?_of_divided {params : Params} (nodup : params.names.Nodup) {name : String}
    {old : Value} {before after : List (String × Value)}
    (divided : params.entries = before ++ (name, old) :: after) : params.get? name = some old :=
  get?_of_mem nodup (by simp [divided])

/-! ## The ordered map -/

/-- The entries are an ordered map: each name has one value and one place, and an operation on a
name leaves all else as it is.  A name is changed where it stands and a new one is put at the end.

Keeping entries by a predicate may come to any choice among them (`chosen`), so what a predicate
that changes from entry to entry can choose is also chosen by one that does not. -/
structure IsOrderedMap (params : Params) : Prop where
  distinct : params.names.Nodup
  collected : collect params.entries = params
  found : ∀ name value, params.get? name = some value ↔ (name, value) ∈ params.entries
  insertedThere : ∀ before name old after value,
    params.entries = before ++ (name, old) :: after →
      params.insert name value = (some old, ⟨before ++ (name, value) :: after⟩)
  insertedNew : ∀ name value, name ∉ params.names →
    params.insert name value = (none, ⟨params.entries ++ [(name, value)]⟩)
  appendedThere : ∀ before name old after value,
    params.entries = before ++ (name, old) :: after →
      params.append name value = ⟨before ++ (name, old.joined value) :: after⟩
  appendedNew : ∀ name value, name ∉ params.names →
    params.append name value = ⟨params.entries ++ [(name, value)]⟩
  removed : ∀ name, (params.remove name).1 = params.get? name
  removedThere : ∀ before name old after, params.entries = before ++ (name, old) :: after →
    params.remove name = (some old, ⟨before ++ after⟩)
  removedNone : ∀ name, name ∉ params.names → params.remove name = (none, params)
  retained : ∀ keep, (params.retain keep).entries.Sublist params.entries ∧
    ∀ entry, entry ∈ (params.retain keep).entries ↔
      entry ∈ params.entries ∧ keep entry.1 entry.2 = true
  chosen : ∀ entries, entries.Sublist params.entries →
    ∃ keep, (params.retain keep).entries = entries
  others : ∀ name other, other ≠ name →
    (∀ value, (params.insert name value).2.get? other = params.get? other) ∧
    (∀ value, (params.append name value).get? other = params.get? other) ∧
    (params.remove name).2.get? other = params.get? other

theorem get?_eq_none {params : Params} {name : String} (absent : name ∉ params.names) :
    params.get? name = none :=
  find?_eq_none_iff.2 absent

theorem filter_names_of_sublist {entries chosen : List (String × Value)}
    (sublist : chosen.Sublist entries) (nodup : (entries.map (·.1)).Nodup) :
    entries.filter (fun entry => decide (entry.1 ∈ chosen.map (·.1))) = chosen := by
  induction sublist with
  | slnil => rfl
  | @cons chosen entries entry sublist ih =>
      obtain ⟨absent, others⟩ := List.nodup_cons.1 nodup
      have notChosen : entry.1 ∉ chosen.map (·.1) := fun member =>
        absent ((sublist.map _).subset member)
      rw [List.filter_cons_of_neg (by simpa using notChosen), ih others]
  | @cons_cons chosen entries entry sublist ih =>
      obtain ⟨absent, others⟩ := List.nodup_cons.1 nodup
      have later : entries.filter (fun other => decide (other.1 ∈ (entry :: chosen).map (·.1))) =
          entries.filter fun other => decide (other.1 ∈ chosen.map (·.1)) := by
        refine List.filter_congr fun other member => decide_eq_decide.2 ?_
        have differ : other.1 ≠ entry.1 := fun same =>
          absent (List.mem_map.2 ⟨other, member, same⟩)
        rw [List.map_cons, List.mem_cons, or_iff_right differ]
      rw [List.filter_cons_of_pos (by simp), later, ih others]

theorem isOrderedMap_of_nodup {params : Params} (nodup : params.names.Nodup) :
    params.IsOrderedMap where
  distinct := nodup
  collected := collect_of_nodup nodup
  found name value := ⟨mem_of_find?, get?_of_mem nodup⟩
  insertedThere before name old after value divided := by
    have absent := not_mem_before (by rw [← divided]; exact nodup)
    rw [insert, get?_of_divided nodup divided, divided, alter_of_divided absent]
  insertedNew name value absent := by
    rw [insert, get?_eq_none absent, alter_of_not_mem absent]
  appendedThere before name old after value divided := by
    have absent := not_mem_before (by rw [← divided]; exact nodup)
    rw [append, divided, alter_of_divided absent]
  appendedNew name value absent := by
    rw [append, alter_of_not_mem absent]
  removed name := rfl
  removedThere before name old after divided := by
    have absent := not_mem_before (by rw [← divided]; exact nodup)
    rw [remove, get?_of_divided nodup divided, divided, erase_of_divided absent]
  removedNone name absent := by
    rw [remove, get?_eq_none absent, erase_of_not_mem absent]
  retained keep := ⟨List.filter_sublist, fun entry => by simp [retain]⟩
  chosen entries sublist :=
    ⟨fun name _ => decide (name ∈ entries.map Prod.fst), filter_names_of_sublist sublist nodup⟩
  others name other differ :=
    ⟨fun value => find?_alter_of_ne differ _ _, fun value => get?_append_of_ne differ params value,
      find?_erase_of_ne differ _⟩

theorem run_isOrderedMap (operations : List Operation) : (run operations).IsOrderedMap :=
  isOrderedMap_of_nodup (reachable_run operations).nodup

end RequestUploads.Params
