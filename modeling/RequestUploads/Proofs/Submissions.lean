import Mathlib.Data.List.Perm.Basic
import Mathlib.Data.List.Induction
import RequestUploads.Proofs.Params

namespace RequestUploads

def submitted (name : String) (submissions : List (String × Value)) : List Value :=
  (submissions.filter fun submission => submission.1 = name).map (·.2)

def Value.collected : List Value → Option Value
  | [] => none
  | first :: later => some (later.foldl joined first)

theorem submitted_eq_nil {name : String} {submissions : List (String × Value)}
    (absent : name ∉ submissions.map (·.1)) : submitted name submissions = [] := by
  rw [submitted, List.map_eq_nil_iff, List.filter_eq_nil_iff]
  intro submission member same
  exact absent (List.mem_map.2 ⟨submission, member, of_decide_eq_true same⟩)

theorem submitted_eq_of_mem {first second : List (String × Value)}
    (each : ∀ name ∈ first.map (·.1) ++ second.map (·.1),
      submitted name first = submitted name second) (name : String) :
    submitted name first = submitted name second := by
  by_cases member : name ∈ first.map (·.1) ++ second.map (·.1)
  · exact each name member
  · obtain ⟨notFirst, notSecond⟩ := not_or.1 (mt List.mem_append.2 member)
    rw [submitted_eq_nil notFirst, submitted_eq_nil notSecond]

theorem submitted_concat (name : String) (submissions : List (String × Value))
    (last : String × Value) :
    submitted name (submissions ++ [last]) =
      submitted name submissions ++ if last.1 = name then [last.2] else [] := by
  by_cases same : last.1 = name <;> simp [submitted, same]

theorem Value.collected_concat (values : List Value) (last : Value) :
    collected (values ++ [last]) =
      some (match collected values with | some first => first.joined last | none => last) := by
  cases values with
  | nil => rfl
  | cons first later => simp [collected]

namespace Params

/-! ## Values -/

theorem get?_append_self (params : Params) (name : String) (value : Value) :
    (params.append name value).get? name =
      some (match params.get? name with | some first => first.joined value | none => value) :=
  find?_alter_self name _ params.entries

theorem get?_append_of_ne {name other : String} (differ : other ≠ name) (params : Params)
    (value : Value) : (params.append name value).get? other = params.get? other :=
  find?_alter_of_ne differ _ params.entries

theorem collect_concat (submissions : List (String × Value)) (last : String × Value) :
    collect (submissions ++ [last]) = (collect submissions).append last.1 last.2 := by
  simp [collect]

theorem get?_collect (name : String) (submissions : List (String × Value)) :
    (collect submissions).get? name = Value.collected (submitted name submissions) := by
  induction submissions using List.reverseRecOn with
  | nil => rfl
  | append_singleton submissions last ih =>
      obtain ⟨key, value⟩ := last
      rw [collect_concat, submitted_concat]
      by_cases same : key = name
      · subst same
        rw [get?_append_self, ih, if_pos rfl, Value.collected_concat]
      · rw [get?_append_of_ne (Ne.symm same), ih, if_neg same, List.append_nil]

/-! ## Names -/

theorem eraseDups_concat (names : List String) (last : String) :
    (names ++ [last]).eraseDups =
      names.eraseDups ++ if last ∈ names then [] else [last] := by
  rw [List.eraseDups_append]
  by_cases present : last ∈ names <;> simp [List.removeAll, List.eraseDups_cons, present]

theorem names_append (params : Params) (name : String) (value : Value) :
    (params.append name value).names =
      params.names ++ if name ∈ params.names then [] else [name] := by
  by_cases present : name ∈ params.names
  · rw [if_pos present, List.append_nil]
    exact names_alter_of_mem present _
  · rw [if_neg present, names, append, alter_of_not_mem present, List.map_append]
    rfl

theorem names_collect (submissions : List (String × Value)) :
    (collect submissions).names = (submissions.map (·.1)).eraseDups := by
  induction submissions using List.reverseRecOn with
  | nil => rfl
  | append_singleton submissions last ih =>
      rw [collect_concat, names_append, ih, List.map_append, List.map_singleton, eraseDups_concat]
      simp only [List.mem_eraseDups]

/-! ## Entries -/

theorem mem_names_iff {params : Params} {name : String} :
    name ∈ params.names ↔ params.get? name ≠ none := by
  rw [Ne, get?, find?_eq_none_iff, not_not, names]

theorem entries_eq_filterMap {params : Params} (nodup : params.names.Nodup) :
    params.entries = params.names.filterMap fun name => (params.get? name).map ((name, ·)) := by
  obtain ⟨entries⟩ := params
  simp only [names, get?] at nodup ⊢
  induction entries with
  | nil => rfl
  | cons entry entries ih =>
      obtain ⟨key, value⟩ := entry
      obtain ⟨absent, others⟩ := List.nodup_cons.1 nodup
      have later : ∀ name ∈ entries.map (·.1),
          (find? name ((key, value) :: entries)).map ((name, ·)) =
            (find? name entries).map ((name, ·)) := by
        rintro name member
        have differ : key ≠ name := fun same => absent (same ▸ member)
        rw [find?, if_neg differ]
      rw [List.map_cons, List.filterMap_cons, find?, if_pos rfl, List.filterMap_congr later,
        ← ih others]
      rfl

theorem entries_eq_of_get? {params others : Params} (nodup : params.names.Nodup)
    (names : others.names = params.names)
    (same : ∀ name ∈ params.names, others.get? name = params.get? name) :
    others.entries = params.entries := by
  rw [entries_eq_filterMap nodup, entries_eq_filterMap (names ▸ nodup), names]
  exact List.filterMap_congr fun name member => by rw [same name member]

theorem entries_perm_of_get? {params others : Params} (nodup : params.names.Nodup)
    (othersNodup : others.names.Nodup) (same : ∀ name, others.get? name = params.get? name) :
    others.entries.Perm params.entries := by
  have names : others.names.Perm params.names := by
    rw [List.perm_ext_iff_of_nodup othersNodup nodup]
    intro name
    rw [mem_names_iff, mem_names_iff, same]
  rw [entries_eq_filterMap nodup, entries_eq_filterMap othersNodup]
  simp only [same]
  exact names.filterMap _

end Params

end RequestUploads
