import RequestUploads.Proofs.Reading

namespace RequestUploads
open Results

def Unreadable (dialect : Dialect) (params : Params) (raw : String) : Prop :=
  Blank.trim raw.toList ≠ [] ∧
    ((∃ refusal, Declaration.split dialect raw = .error refusal) ∨
      ∃ declarations, Declaration.split dialect raw = .ok declarations ∧
        ∃ declaration ∈ declarations, ∃ refusal, Upload.parse declaration params = .error refusal)

/-- What a text is refused for: its division, or else its first declaration that is refused. -/
def RefusedFor (dialect : Dialect) (params : Params) (raw : String) (refusal : UploadError) :
    Prop :=
  Blank.trim raw.toList ≠ [] ∧
    (Declaration.split dialect raw = .error refusal ∨
      ∃ before declaration after,
        Declaration.split dialect raw = .ok (before ++ declaration :: after) ∧
        (∀ earlier ∈ before, ∃ upload, Upload.parse earlier params = .ok upload) ∧
        Upload.parse declaration params = .error refusal)

theorem parses_eq_error_iff {params : Params} {declarations : List String} {refusal : UploadError} :
    (declarations.map fun declaration => Upload.parse declaration params).mapM id =
        .error refusal ↔
      ∃ before declaration after, declarations = before ++ declaration :: after ∧
        (∀ earlier ∈ before, ∃ upload, Upload.parse earlier params = .ok upload) ∧
        Upload.parse declaration params = .error refusal := by
  have single (result : Except UploadError Upload) :
      [result].mapM id = result.map ([·]) := by cases result <;> rfl
  have ok_iff (result : Except UploadError Upload) :
      (∃ uploads, result.map (fun upload => [upload]) = .ok uploads) ↔
        ∃ upload, result = .ok upload := by
    cases result <;> simp
  have error_iff (result : Except UploadError Upload) :
      result.map (fun upload => [upload]) = .error refusal ↔ result = .error refusal := by
    cases result <;> simp
  rw [List.map_eq_flatMap, mapM_id_flatMap_eq_error_iff]
  simp only [single, ok_iff, error_iff]

theorem readings_text_eq_error_iff {dialect : Dialect} {params : Params} {raw : String}
    {refusal : UploadError} :
    ((Value.text raw).readings dialect params).mapM id = .error refusal ↔
      RefusedFor dialect params raw refusal := by
  simp only [Value.readings, RefusedFor]
  split_ifs with blank
  · simp [blank]
  · cases division : Declaration.split dialect raw with
    | error other => simp [blank]
    | ok declarations =>
        rw [parses_eq_error_iff]
        simp [blank]

theorem unreadable_iff {dialect : Dialect} {params : Params} {raw : String} :
    Unreadable dialect params raw ↔ ∃ refusal, RefusedFor dialect params raw refusal := by
  constructor
  · rintro ⟨visible, ⟨refusal, division⟩ | ⟨declarations, division, declaration, member, fails⟩⟩
    · exact ⟨refusal, visible, .inl division⟩
    · obtain ⟨refusal, parses⟩ : ∃ refusal,
          (declarations.map fun declaration => Upload.parse declaration params).mapM id =
            .error refusal := by
        obtain ⟨refusal, refused⟩ := fails
        exact mapM_id_fails_iff.2 ⟨refusal, List.mem_map.2 ⟨declaration, member, refused⟩⟩
      obtain ⟨before, first, after, rfl, earlier, refused⟩ := parses_eq_error_iff.1 parses
      exact ⟨refusal, visible, .inr ⟨before, first, after, division, earlier, refused⟩⟩
  · rintro ⟨refusal, visible, division | ⟨before, declaration, after, division, -, refused⟩⟩
    · exact ⟨visible, .inl ⟨refusal, division⟩⟩
    · exact ⟨visible, .inr ⟨_, division, declaration, by simp, refusal, refused⟩⟩

theorem readings_text_eq_ok_iff {dialect : Dialect} {params : Params} {raw : String} :
    (∃ uploads, ((Value.text raw).readings dialect params).mapM id = .ok uploads) ↔
      ¬Unreadable dialect params raw := by
  rw [unreadable_iff]
  simp only [← readings_text_eq_error_iff]
  cases ((Value.text raw).readings dialect params).mapM id <;> simp

theorem readings_eq_ok_of_ne_text {dialect : Dialect} {params : Params} {leaf : Value}
    (other : ∀ raw, leaf ≠ .text raw) :
    ∃ uploads, (leaf.readings dialect params).mapM id = .ok uploads := by
  cases leaf with
  | text raw => exact absurd rfl (other raw)
  | upload found => exact ⟨[found], rfl⟩
  | null | file _ | list _ => exact ⟨[], rfl⟩

theorem readings_eq_error_iff {dialect : Dialect} {params : Params} {refusal : UploadError} :
    (params.readings dialect).mapM id = .error refusal ↔
      ∃ before raw after, params.reservedLeaves = before ++ .text raw :: after ∧
        (∀ earlier, .text earlier ∈ before → ¬Unreadable dialect params earlier) ∧
        RefusedFor dialect params raw refusal := by
  rw [Params.readings, mapM_id_flatMap_eq_error_iff]
  constructor
  · rintro ⟨before, leaf, after, eq, earlier, fails⟩
    cases leaf with
    | text raw =>
        refine ⟨before, raw, after, eq, ?_, readings_text_eq_error_iff.1 fails⟩
        exact fun other member => readings_text_eq_ok_iff.1 (earlier _ member)
    | null | file _ | upload _ | list _ => cases fails
  · rintro ⟨before, raw, after, eq, earlier, refused⟩
    refine ⟨before, .text raw, after, eq, ?_, readings_text_eq_error_iff.2 refused⟩
    intro leaf member
    by_cases isText : ∃ other, leaf = .text other
    · obtain ⟨other, rfl⟩ := isText
      exact readings_text_eq_ok_iff.2 (earlier other member)
    · exact readings_eq_ok_of_ne_text fun other same => isText ⟨other, same⟩

theorem refused_iff {dialect : Dialect} {params : Params} :
    (∃ refusal, (params.readings dialect).mapM id = .error refusal) ↔
      ∃ raw, .text raw ∈ params.reservedLeaves ∧ Unreadable dialect params raw := by
  constructor
  · rintro ⟨refusal, outcome⟩
    obtain ⟨before, raw, after, eq, -, refused⟩ := readings_eq_error_iff.1 outcome
    exact ⟨raw, by simp [eq], unreadable_iff.2 ⟨refusal, refused⟩⟩
  · rintro ⟨raw, member, unreadable⟩
    obtain ⟨refusal, refused⟩ := unreadable_iff.1 unreadable
    obtain ⟨failure, found⟩ := mapM_id_fails_iff.1 ⟨refusal, readings_text_eq_error_iff.2 refused⟩
    exact mapM_id_fails_iff.2 ⟨failure, List.mem_flatMap.2 ⟨.text raw, member, found⟩⟩

theorem extractUploads_reads_in_order {σ : Type} (dialect : Dialect) (files : FileManager σ)
    (params : Params) (state : σ) :
    let outcome := extractUploads dialect files params state
    ((∃ refusal, outcome.result = .error refusal) ↔
      ∃ raw, .text raw ∈ params.reservedLeaves ∧ Unreadable dialect params raw) ∧
    (∀ refusal, outcome.result = .error refusal ↔
      ∃ before raw after, params.reservedLeaves = before ++ .text raw :: after ∧
        (∀ earlier, .text earlier ∈ before → ¬Unreadable dialect params earlier) ∧
        RefusedFor dialect params raw refusal) ∧
    (∀ refusal, outcome.result = .error refusal →
      outcome = ⟨.error refusal, params, [], [], state⟩) ∧
    ∀ uploads, outcome.result = .ok uploads ↔ params.readings dialect = uploads.map .ok := by
  intro outcome
  have result : outcome.result = (params.readings dialect).mapM id :=
    extractUploads_result dialect files params state
  refine ⟨?_, ?_, fun _ refused => extractUploads_of_error refused, ?_⟩
  · rw [result]
    exact refused_iff
  · intro refusal
    rw [result]
    exact readings_eq_error_iff
  · intro uploads
    rw [result]
    exact mapM_id_eq_ok_iff

end RequestUploads
