import Mathlib.Data.List.Forall2

namespace RequestUploads.Results

variable {ε α β : Type}

@[simp] theorem ok_bind (value : α) (next : α → Except ε β) :
    (Except.ok value >>= next) = next value :=
  rfl

@[simp] theorem error_bind (failure : ε) (next : α → Except ε β) :
    (Except.error failure >>= next) = .error failure :=
  rfl

@[simp] theorem pure_eq_ok (value : α) : (pure value : Except ε α) = .ok value := rfl

@[simp] theorem map_ok (f : α → β) (value : α) :
    (Except.ok value : Except ε α).map f = .ok (f value) :=
  rfl

@[simp] theorem map_error (f : α → β) (failure : ε) :
    (Except.error failure : Except ε α).map f = .error failure :=
  rfl

theorem bind_eq_ok_iff {result : Except ε α} {next : α → Except ε β} {value : β} :
    (result >>= next) = .ok value ↔ ∃ first, result = .ok first ∧ next first = .ok value := by
  cases result <;> simp

theorem mapError_eq_ok_iff {δ : Type} {result : Except ε α} {f : ε → δ} {value : α} :
    result.mapError f = .ok value ↔ result = .ok value := by
  cases result <;> simp [Except.mapError]

theorem of_guard {stop : Prop} [Decidable stop] {failure : ε} {next : Except ε β} {value : β}
    (passes : (if stop then throw failure >>= fun _ : PUnit => next else next) = .ok value) :
    next = .ok value := by
  split_ifs at passes
  · cases passes
  · exact passes

theorem of_choice {first : Prop} [Decidable first] {one other : Except ε α}
    {next : α → Except ε β} {value : β}
    (passes : (if first then one >>= next else other >>= next) = .ok value) :
    ∃ taken, (one = .ok taken ∨ other = .ok taken) ∧ next taken = .ok value := by
  split_ifs at passes
  · obtain ⟨taken, made, passes⟩ := bind_eq_ok_iff.1 passes
    exact ⟨taken, .inl made, passes⟩
  · obtain ⟨taken, made, passes⟩ := bind_eq_ok_iff.1 passes
    exact ⟨taken, .inr made, passes⟩

theorem mapM_id_map_ok (values : List α) :
    (values.map Except.ok : List (Except ε α)).mapM id = .ok values := by
  induction values with
  | nil => rfl
  | cons value values ih => simp [ih]

theorem mapM_id_of_failure (values : List α) (failure : ε) (later : List (Except ε α)) :
    (values.map Except.ok ++ Except.error failure :: later).mapM id = .error failure := by
  rw [List.mapM_append, mapM_id_map_ok]
  simp

theorem all_ok_or_first_failure (results : List (Except ε α)) :
    (∃ values : List α, results = values.map Except.ok) ∨
      ∃ (values : List α) (failure : ε) (later : List (Except ε α)),
        results = values.map Except.ok ++ Except.error failure :: later := by
  induction results with
  | nil => exact .inl ⟨[], rfl⟩
  | cons result results ih =>
      cases result with
      | error failure => exact .inr ⟨[], failure, results, rfl⟩
      | ok value =>
          rcases ih with ⟨values, rfl⟩ | ⟨values, failure, later, rfl⟩
          · exact .inl ⟨value :: values, rfl⟩
          · exact .inr ⟨value :: values, failure, later, rfl⟩

theorem mapM_id_eq_ok_iff {results : List (Except ε α)} {values : List α} :
    results.mapM id = .ok values ↔ results = values.map Except.ok := by
  constructor
  · intro outcome
    rcases all_ok_or_first_failure results with ⟨found, rfl⟩ | ⟨found, failure, later, rfl⟩
    · rw [mapM_id_map_ok, Except.ok.injEq] at outcome
      rw [outcome]
    · rw [mapM_id_of_failure] at outcome
      cases outcome
  · rintro rfl
    exact mapM_id_map_ok values

theorem mapM_id_eq_error_iff {results : List (Except ε α)} {failure : ε} :
    results.mapM id = .error failure ↔
      ∃ (values : List α) (later : List (Except ε α)),
        results = values.map Except.ok ++ Except.error failure :: later := by
  constructor
  · intro outcome
    rcases all_ok_or_first_failure results with ⟨found, rfl⟩ | ⟨found, other, later, rfl⟩
    · rw [mapM_id_map_ok] at outcome
      cases outcome
    · rw [mapM_id_of_failure, Except.error.injEq] at outcome
      exact ⟨found, later, by rw [outcome]⟩
  · rintro ⟨values, later, rfl⟩
    exact mapM_id_of_failure values failure later

theorem mapM_id_fails_iff {results : List (Except ε α)} :
    (∃ failure, results.mapM id = .error failure) ↔ ∃ failure, .error failure ∈ results := by
  constructor
  · rintro ⟨failure, outcome⟩
    obtain ⟨values, later, rfl⟩ := mapM_id_eq_error_iff.1 outcome
    exact ⟨failure, by simp⟩
  · rintro ⟨failure, member⟩
    cases outcome : results.mapM id with
    | error other => exact ⟨other, rfl⟩
    | ok values =>
        rw [mapM_id_eq_ok_iff.1 outcome] at member
        simp at member

theorem mapM_eq_ok_iff {read : β → Except ε α} {items : List β} {values : List α} :
    items.mapM read = .ok values ↔
      List.Forall₂ (fun item value => read item = .ok value) items values := by
  have results : items.mapM read = (items.map read).mapM id := by simp [List.mapM_map]
  rw [results, mapM_id_eq_ok_iff, ← List.forall₂_eq_eq_eq, List.forall₂_map_left_iff,
    List.forall₂_map_right_iff]

theorem mapM_id_append_of_ok {results later : List (Except ε α)} {values : List α}
    (read : results.mapM id = .ok values) :
    (results ++ later).mapM id = (later.mapM id).map (values ++ ·) := by
  rw [List.mapM_append, read]
  cases later.mapM id with
  | error failure => rfl
  | ok others => rfl

theorem mapM_id_append_of_error {results : List (Except ε α)} {failure : ε}
    (read : results.mapM id = .error failure) (later : List (Except ε α)) :
    (results ++ later).mapM id = .error failure := by
  rw [List.mapM_append, read]
  rfl

/-- When every item gives results in turn, the first failure is that of the first item that has
one. -/
theorem mapM_id_flatMap_eq_error_iff {items : List β} {read : β → List (Except ε α)} {failure : ε} :
    (items.flatMap read).mapM id = .error failure ↔
      ∃ before item after, items = before ++ item :: after ∧
        (∀ earlier ∈ before, ∃ values, (read earlier).mapM id = .ok values) ∧
        (read item).mapM id = .error failure := by
  constructor
  · intro outcome
    induction items with
    | nil => cases outcome
    | cons item items ih =>
        rw [List.flatMap_cons] at outcome
        cases first : (read item).mapM id with
        | error other =>
            rw [mapM_id_append_of_error first] at outcome
            exact ⟨[], item, items, rfl, by simp, by rw [first, outcome]⟩
        | ok values =>
            rw [mapM_id_append_of_ok first] at outcome
            have rest : (items.flatMap read).mapM id = .error failure := by
              cases rest : (items.flatMap read).mapM id with
              | error other => rw [rest] at outcome; exact outcome
              | ok others => rw [rest] at outcome; cases outcome
            obtain ⟨before, found, after, rfl, earlier, fails⟩ := ih rest
            refine ⟨item :: before, found, after, rfl, ?_, fails⟩
            intro other member
            rcases List.mem_cons.1 member with rfl | inTail
            · exact ⟨values, first⟩
            · exact earlier other inTail
  · rintro ⟨before, item, after, rfl, earlier, fails⟩
    induction before with
    | nil =>
        rw [List.nil_append, List.flatMap_cons]
        exact mapM_id_append_of_error fails _
    | cons other before ih =>
        obtain ⟨values, first⟩ := earlier other (by simp)
        rw [List.cons_append, List.flatMap_cons, mapM_id_append_of_ok first,
          ih fun found member => earlier found (by simp [member])]
        rfl

theorem exists_parts_of_flatMap_eq_ok {items : List β} {read : β → List (Except ε α)}
    {values : List α} (all : items.flatMap read = values.map .ok) :
    ∃ parts, List.Forall₂ (fun item part => read item = part.map .ok) items parts ∧
      parts.flatten = values := by
  induction items generalizing values with
  | nil => exact ⟨[], .nil, (List.map_eq_nil_iff.1 all.symm).symm⟩
  | cons item items ih =>
      rw [List.flatMap_cons] at all
      obtain ⟨first, others, rfl, here, later⟩ := List.map_eq_append_iff.1 all.symm
      obtain ⟨parts, each, rfl⟩ := ih later.symm
      exact ⟨first :: parts, .cons here.symm each, rfl⟩

theorem exists_of_mem_right {related : α → β → Prop} {items : List α} {others : List β}
    (each : List.Forall₂ related items others) {other : β} (member : other ∈ others) :
    ∃ item ∈ items, related item other := by
  induction each with
  | nil => cases member
  | cons here _ ih =>
      rcases List.mem_cons.1 member with rfl | later
      · exact ⟨_, List.mem_cons_self, here⟩
      · obtain ⟨item, found, there⟩ := ih later
        exact ⟨item, List.mem_cons_of_mem _ found, there⟩

/-- If every second item has a value that is related to its first item, all have. -/
theorem exists_mapM_of_forall₂ {γ : Type} {read : β → Except ε γ} {related : α → γ → Prop}
    {items : List α} {others : List β}
    (each : List.Forall₂ (fun item other => ∃ value, read other = .ok value ∧ related item value)
      items others) :
    ∃ values, others.mapM read = .ok values ∧ List.Forall₂ related items values := by
  induction each with
  | nil => exact ⟨[], rfl, .nil⟩
  | cons here _ ih =>
      obtain ⟨value, first, fits⟩ := here
      obtain ⟨values, rest, fit⟩ := ih
      exact ⟨value :: values, by simp [first, rest], .cons fits fit⟩

end RequestUploads.Results
