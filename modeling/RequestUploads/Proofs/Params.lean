import Mathlib.Data.List.Basic
import RequestUploads.Params.Basic

namespace RequestUploads.Params

theorem alter_of_not_mem {name : String} {entries : List (String × Value)}
    (absent : name ∉ entries.map (·.1)) (change : Option Value → Value) :
    alter name change entries = entries ++ [(name, change none)] := by
  induction entries with
  | nil => rfl
  | cons entry entries ih =>
      have differ : entry.1 ≠ name := fun same => absent (by simp [same])
      rw [alter, if_neg differ, ih fun member => absent (by simp [member])]
      rfl

theorem names_alter_of_mem {name : String} {entries : List (String × Value)}
    (present : name ∈ entries.map (·.1)) (change : Option Value → Value) :
    (alter name change entries).map (·.1) = entries.map (·.1) := by
  induction entries with
  | nil => cases present
  | cons entry entries ih =>
      by_cases same : entry.1 = name
      · rw [alter, if_pos same]
        rfl
      · have later : name ∈ entries.map (·.1) := by
          rcases List.mem_cons.1 present with first | later
          · exact absurd first.symm same
          · exact later
        rw [alter, if_neg same, List.map_cons, ih later]
        rfl

theorem mem_names_alter {name key : String} {change : Option Value → Value}
    {entries : List (String × Value)} (member : key ∈ (alter name change entries).map (·.1)) :
    key = name ∨ key ∈ entries.map (·.1) := by
  induction entries with
  | nil => exact .inl (by simpa [alter] using member)
  | cons entry entries ih =>
      by_cases same : entry.1 = name
      · rw [alter, if_pos same] at member
        exact .inr member
      · rw [alter, if_neg same, List.map_cons, List.mem_cons] at member
        rcases member with first | later
        · exact .inr (by simp [first])
        · rcases ih later with new | old
          · exact .inl new
          · exact .inr (List.mem_cons_of_mem _ old)

theorem append_cons_self (name : String) (old next : Value) (entries : List (String × Value)) :
    append ⟨(name, old) :: entries⟩ name next = ⟨(name, old.joined next) :: entries⟩ := by
  rw [append, alter, if_pos rfl]

theorem append_cons_of_ne {key name : String} (differ : key ≠ name) (old next : Value)
    (entries : List (String × Value)) :
    append ⟨(key, old) :: entries⟩ name next =
      ⟨(key, old) :: (append ⟨entries⟩ name next).entries⟩ := by
  rw [append, alter, if_neg differ]
  rfl

theorem mem_names_foldl_append {key : String} (submissions : List (String × Value))
    (params : Params) (member : key ∈
      (submissions.foldl (fun p (name, value) => p.append name value) params).names) :
    key ∈ params.names ∨ key ∈ submissions.map (·.1) := by
  induction submissions generalizing params with
  | nil => exact .inl member
  | cons submission submissions ih =>
      rcases ih _ member with begun | later
      · rcases mem_names_alter begun with new | old
        · exact .inr (by simp [new])
        · exact .inl old
      · exact .inr (List.mem_cons_of_mem _ later)

theorem mem_names_collect {key : String} {submissions : List (String × Value)}
    (member : key ∈ (collect submissions).names) : key ∈ submissions.map (·.1) := by
  rcases mem_names_foldl_append submissions ∅ member with impossible | submitted
  · cases impossible
  · exact submitted

/-! ## Names that differ -/

theorem nodup_alter {name : String} {entries : List (String × Value)}
    (nodup : (entries.map (·.1)).Nodup) (change : Option Value → Value) :
    ((alter name change entries).map (·.1)).Nodup := by
  by_cases present : name ∈ entries.map (·.1)
  · rwa [names_alter_of_mem present]
  · rw [alter_of_not_mem present, List.map_append]
    refine List.nodup_append.2 ⟨nodup, List.pairwise_singleton _ _, ?_⟩
    rintro key member other atEnd rfl
    rw [List.mem_singleton.1 atEnd] at member
    exact present member

theorem erase_sublist (name : String) (entries : List (String × Value)) :
    (erase name entries).Sublist entries := by
  induction entries with
  | nil => exact .slnil
  | cons entry entries ih =>
      by_cases same : entry.1 = name
      · rw [erase, if_pos same]
        exact List.sublist_cons_self _ _
      · rw [erase, if_neg same]
        exact ih.cons_cons _

theorem nodup_foldl_append (submissions : List (String × Value)) {params : Params}
    (nodup : params.names.Nodup) :
    (submissions.foldl (fun p (name, value) => p.append name value) params).names.Nodup := by
  induction submissions generalizing params with
  | nil => exact nodup
  | cons submission submissions ih => exact ih (nodup_alter nodup _)

theorem nodup_collect (submissions : List (String × Value)) :
    (collect submissions).names.Nodup :=
  nodup_foldl_append submissions List.nodup_nil

theorem foldl_append_of_nodup (begun submissions : List (String × Value))
    (nodup : ((begun ++ submissions).map (·.1)).Nodup) :
    submissions.foldl (fun p (name, value) => p.append name value) (⟨begun⟩ : Params) =
      ⟨begun ++ submissions⟩ := by
  induction submissions generalizing begun with
  | nil => simp
  | cons submission submissions ih =>
      obtain ⟨name, value⟩ := submission
      have absent : name ∉ begun.map (·.1) := by
        rw [List.map_append, List.map_cons, List.nodup_append] at nodup
        exact fun member => nodup.2.2 _ member _ List.mem_cons_self rfl
      have once : append ⟨begun⟩ name value = ⟨begun ++ [(name, value)]⟩ := by
        rw [append, alter_of_not_mem absent]
      simp only [List.foldl_cons, once]
      rw [ih (begun ++ [(name, value)]) (by simpa using nodup), List.append_assoc]
      rfl

theorem collect_of_nodup {entries : List (String × Value)} (nodup : (entries.map (·.1)).Nodup) :
    collect entries = ⟨entries⟩ :=
  foldl_append_of_nodup [] entries nodup

/-! ## Look-ups -/

theorem find?_eq_none_iff {name : String} {entries : List (String × Value)} :
    find? name entries = none ↔ name ∉ entries.map (·.1) := by
  induction entries with
  | nil => simp [find?]
  | cons entry entries ih =>
      obtain ⟨key, value⟩ := entry
      by_cases same : key = name
      · simp [find?, same]
      · rw [find?, if_neg same, ih, List.map_cons, List.mem_cons]
        simp [Ne.symm same]

theorem mem_of_find? {name : String} {entries : List (String × Value)} {value : Value}
    (found : find? name entries = some value) : (name, value) ∈ entries := by
  induction entries with
  | nil => cases found
  | cons entry entries ih =>
      obtain ⟨key, held⟩ := entry
      by_cases same : key = name
      · rw [find?, if_pos same, Option.some.injEq] at found
        rw [same, found]
        exact List.mem_cons_self
      · rw [find?, if_neg same] at found
        exact List.mem_cons_of_mem _ (ih found)

theorem find?_filter_of_kept {name : String} (keep : String → Bool) (kept : keep name = true)
    (entries : List (String × Value)) :
    find? name (entries.filter fun entry => keep entry.1) = find? name entries := by
  induction entries with
  | nil => rfl
  | cons entry entries ih =>
      obtain ⟨key, value⟩ := entry
      by_cases same : key = name
      · subst same
        simp [kept, find?]
      · by_cases keptToo : keep key <;> simp [keptToo, find?, same, ih]

end RequestUploads.Params
