import RequestUploads.Proofs.Pruning

namespace RequestUploads

namespace FileManager

variable {σ : Type}

/-- A manager that records which deletions it is asked for and what comes of each. -/
def recorded (files : FileManager σ) : FileManager (List (StagedFile × Deletion) × σ) where
  delete file state :=
    let (deletion, after) := files.delete file state.2
    (deletion, state.1 ++ [(file, deletion)], after)
  openRemote := files.openRemote

def report (attempt : StagedFile × Deletion) : List Event :=
  attempt.2.events ++ [outcome attempt.1 attempt.2]

/-- Files with what comes of deleting them one after the other. -/
def answers (files : FileManager σ) : List StagedFile → σ → List (StagedFile × Deletion)
  | [], _ => []
  | file :: rest, state =>
      (file, (files.delete file state).1) :: files.answers rest (files.delete file state).2

theorem map_fst_answers (files : FileManager σ) (deletions : List StagedFile) (state : σ) :
    (files.answers deletions state).map (·.1) = deletions := by
  induction deletions generalizing state with
  | nil => rfl
  | cons file rest ih => rw [answers, List.map_cons, ih]

theorem discardAll_cons (files : FileManager σ) (file : StagedFile) (rest : List StagedFile)
    (state : σ) :
    files.discardAll (file :: rest) state =
      (report (file, (files.delete file state).1) ++
          (files.discardAll rest (files.delete file state).2).1,
        (files.discardAll rest (files.delete file state).2).2) := by
  simp [discardAll, report]

theorem discardAll_events (files : FileManager σ) (deletions : List StagedFile) (state : σ) :
    (files.discardAll deletions state).1 = (files.answers deletions state).flatMap report := by
  induction deletions generalizing state with
  | nil => rfl
  | cons file rest ih => rw [discardAll_cons, answers, List.flatMap_cons, ih]

theorem discardAll_recorded (files : FileManager σ) (deletions : List StagedFile)
    (record : List (StagedFile × Deletion)) (state : σ) :
    files.recorded.discardAll deletions (record, state) =
      ((files.discardAll deletions state).1, record ++ files.answers deletions state,
        (files.discardAll deletions state).2) := by
  induction deletions generalizing record state with
  | nil => rw [answers, List.append_nil]; rfl
  | cons file rest ih =>
      have recordedOnce : files.recorded.delete file (record, state) =
          ((files.delete file state).1, record ++ [(file, (files.delete file state).1)],
            (files.delete file state).2) := rfl
      rw [discardAll_cons, recordedOnce, ih, discardAll_cons, answers, List.append_assoc]
      rfl

theorem level_outcome (file : StagedFile) (deletion : Deletion) :
    (outcome file deletion).level = if deletion.failure = none then .debug else .warn := by
  cases failure : deletion.failure <;> simp [outcome, failure, Event.level]

end FileManager

variable {σ : Type}

theorem extractUploads_recorded (dialect : Dialect) (files : FileManager σ) (params : Params)
    (state : σ) :
    let outcome := extractUploads dialect files params state
    extractUploads dialect files.recorded params ([], state) =
      ⟨outcome.result, outcome.params, outcome.attempts, outcome.events,
        files.answers outcome.attempts state, outcome.state⟩ := by
  unfold extractUploads
  cases extraction dialect params with
  | error refusal => rfl
  | ok found => simp [FileManager.discardAll_recorded]

theorem extractUploads_same {τ : Type} (dialect : Dialect) (files : FileManager σ)
    (params : Params) (state : σ) (others : FileManager τ) (start : τ) :
    let outcome := extractUploads dialect files params state
    let other := extractUploads dialect others params start
    other.result = outcome.result ∧ other.params = outcome.params ∧
      other.attempts = outcome.attempts := by
  unfold extractUploads
  cases extraction dialect params with
  | error refusal => exact ⟨rfl, rfl, rfl⟩
  | ok found => exact ⟨rfl, rfl, rfl⟩

theorem extractUploads_of_found {dialect : Dialect} {files : FileManager σ} {params : Params}
    {state : σ} {uploads : List Upload}
    (succeeds : (extractUploads dialect files params state).result = .ok uploads)
    (found : uploads ≠ []) :
    let outcome := extractUploads dialect files params state
    outcome.attempts =
        (params.reservedFiles ++ params.unreserved.files).filter (unused (referenced uploads)) ∧
      outcome.events = (files.answers outcome.attempts state).flatMap FileManager.report ++
        [.extracted uploads.length (uploads.countP (·.file?.isSome))] := by
  have read := readings_of_result succeeds
  have closing : (Extraction.ofGathered params ⟨uploads, params.reservedFiles⟩).closing =
      [.extracted uploads.length (uploads.countP (·.file?.isSome))] := by
    simp [Extraction.ofGathered, List.countP_eq_length_filter, Upload.isRemote]
  rw [extractUploads_of_uploads read, ofUploads_of_ne_nil read found]
  exact ⟨ofGathered_deletions _ _, by rw [FileManager.discardAll_events, closing]⟩

theorem extractUploads_of_none {dialect : Dialect} {files : FileManager σ} {params : Params}
    {state : σ} (none : (extractUploads dialect files params state).result = .ok [] ∨
      ∃ refusal, (extractUploads dialect files params state).result = .error refusal) :
    (extractUploads dialect files params state).attempts = [] ∧
      (extractUploads dialect files params state).state = state := by
  rcases none with empty | ⟨refusal, refused⟩
  · rw [extractUploads_of_uploads (readings_of_result empty), (ofUploads_nil params).2]
    exact ⟨rfl, rfl⟩
  · rw [extractUploads_of_error refused]
    exact ⟨rfl, rfl⟩

theorem extractUploads_attempts (dialect : Dialect) (files : FileManager σ) (params : Params)
    (state : σ) :
    let outcome := extractUploads dialect files params state
    let watched := extractUploads dialect files.recorded params ([], state)
    let record := watched.state.1
    watched = ⟨outcome.result, outcome.params, outcome.attempts, outcome.events, record,
        outcome.state⟩ ∧
    record.map (·.1) = outcome.attempts ∧
    (∀ uploads, outcome.result = .ok uploads → uploads ≠ [] →
      outcome.attempts =
          (params.reservedFiles ++ params.unreserved.files).filter (unused (referenced uploads)) ∧
        outcome.events = record.flatMap FileManager.report ++
          [.extracted uploads.length (uploads.countP (·.file?.isSome))]) ∧
    (∀ attempt ∈ record, (FileManager.outcome attempt.1 attempt.2).level =
      if attempt.2.failure = none then .debug else .warn) ∧
    ((outcome.result = .ok [] ∨ ∃ refusal, outcome.result = .error refusal) →
      outcome.attempts = [] ∧ outcome.state = state) ∧
    ∀ (τ : Type) (others : FileManager τ) (start : τ),
      let other := extractUploads dialect others params start
      other.result = outcome.result ∧ other.params = outcome.params ∧
        other.attempts = outcome.attempts := by
  intro outcome watched record
  have kept : watched = ⟨outcome.result, outcome.params, outcome.attempts, outcome.events,
      files.answers outcome.attempts state, outcome.state⟩ :=
    extractUploads_recorded dialect files params state
  have answered : record = files.answers outcome.attempts state := by
    simp only [record, kept]
  refine ⟨?_, ?_, ?_, ?_, extractUploads_of_none, ?_⟩
  · rw [answered]
    exact kept
  · rw [answered]
    exact files.map_fst_answers _ _
  · intro uploads succeeds found
    rw [answered]
    exact extractUploads_of_found succeeds found
  · exact fun attempt _ => FileManager.level_outcome attempt.1 attempt.2
  · exact fun τ others start => extractUploads_same dialect files params state others start

theorem extractUploads_attempts_refused :
    let file : StagedFile := ⟨"f", "/staging/1", none, none, none⟩
    let stray : StagedFile := ⟨"UPLOAD", "/staging/2", none, none, none⟩
    let spare : StagedFile := ⟨"h", "/staging/3", none, none, none⟩
    let params := Params.collect
      [("UPLOAD", .text "a,param:f"), ("h", .list [.file spare, .text "x"]), ("f", .file file),
        ("UPLOAD", .file stray)]
    let files : FileManager Nat :=
      { delete := fun file count =>
          (⟨if file.param = "h" then some "read-only" else none, []⟩, count + 1) }
    let outcome := extractUploads .tap files params 0
    let record := (extractUploads .tap files.recorded params ([], 0)).state.1
    outcome.result = .ok [⟨"a", .inline file⟩] ∧ outcome.attempts = [stray, spare] ∧
      record = [(stray, ⟨none, []⟩), (spare, ⟨some "read-only", []⟩)] ∧
      outcome.events = [.deleted stray, .notDeleted spare "read-only", .extracted 1 1] ∧
      (∀ attempt ∈ record, (FileManager.outcome attempt.1 attempt.2).level =
        if attempt.2.failure = none then .debug else .warn) ∧
      (extractUploads .tap .keep params ()).attempts = [stray, spare] := by
  intro file stray spare params files outcome record
  have succeeds : outcome.result = .ok [⟨"a", .inline file⟩] := by decide +kernel
  have attempted : outcome.attempts = [stray, spare] := by decide +kernel
  have recorded : record = [(stray, ⟨none, []⟩), (spare, ⟨some "read-only", []⟩)] := by
    decide +kernel
  obtain ⟨-, -, exactly, levels, -, same⟩ := extractUploads_attempts .tap files params 0
  have told := (exactly _ succeeds (by simp)).2
  refine ⟨succeeds, attempted, recorded, ?_, levels, ?_⟩
  · rw [told]
    change record.flatMap FileManager.report ++ _ = _
    rw [recorded]
    rfl
  · rw [(same Unit .keep ()).2.2]
    exact attempted

end RequestUploads
