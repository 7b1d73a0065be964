import RequestUploads.Proofs.Pruning
import RequestUploads.Proofs.Refusal

/-!
# Sessions

From any parameters, values are submitted and uploads extracted, in any order and with any file
managers.  Once an extraction has found uploads, the parameters carry them (`Carries`): they are the
first leaves of the first reserved parameter.  Submissions keep that, since what is submitted under
a reserved name comes after what is there, and so do extractions, which read those leaves first and
put the uploads back in front.  So every later extraction begins with the same uploads and deletes
none of their files (`passes_keep_uploads`).
-/

namespace RequestUploads

inductive Step (σ : Type)
  | append (name : String) (value : Value)
  | extract (dialect : Dialect) (files : FileManager σ)

/-- An extraction in a session, with the parameters and the state of the file manager before it. -/
structure Pass (σ : Type) where
  params : Params
  state : σ
  outcome : Outcome σ

def passes {σ : Type} : List (Step σ) → Params → σ → List (Pass σ)
  | [], _, _ => []
  | .append name value :: steps, params, state => passes steps (params.append name value) state
  | .extract dialect files :: steps, params, state =>
      let outcome := extractUploads dialect files params state
      ⟨params, state, outcome⟩ :: passes steps outcome.params outcome.state

def Carries (uploads : List Upload) (params : Params) : Prop :=
  ∃ value others, params.reservedValues = value :: others ∧
    uploads.map .upload <+: value.leaves

/-! ## Submissions -/

theorem reservedValues_append {params : Params} {value : Value} {others : List Value}
    (held : params.reservedValues = value :: others) (name : String) (next : Value) :
    ∃ first later, (params.append name next).reservedValues = first :: later ∧
      (first = value ∨ first = value.joined next) := by
  obtain ⟨entries⟩ := params
  induction entries with
  | nil => cases held
  | cons entry entries ih =>
      obtain ⟨key, old⟩ := entry
      by_cases same : key = name
      · subst same
        rw [Params.append_cons_self]
        by_cases reserved : isReserved key
        · rw [reservedValues_cons_of_reserved reserved] at held ⊢
          obtain ⟨rfl, rfl⟩ := List.cons.inj held
          exact ⟨_, _, rfl, .inr rfl⟩
        · rw [reservedValues_cons_of_unreserved reserved] at held ⊢
          exact ⟨value, others, held, .inl rfl⟩
      · rw [Params.append_cons_of_ne same]
        by_cases reserved : isReserved key
        · rw [reservedValues_cons_of_reserved reserved] at held ⊢
          obtain ⟨rfl, rfl⟩ := List.cons.inj held
          exact ⟨_, _, rfl, .inl rfl⟩
        · rw [reservedValues_cons_of_unreserved reserved] at held ⊢
          exact ih held

theorem Carries.append {uploads : List Upload} {params : Params} (carries : Carries uploads params)
    (name : String) (next : Value) : Carries uploads (params.append name next) := by
  obtain ⟨value, others, held, begins⟩ := carries
  obtain ⟨first, later, holds, kept⟩ := reservedValues_append held name next
  refine ⟨first, later, holds, ?_⟩
  rcases kept with rfl | rfl
  · exact begins
  · rw [Value.leaves_joined]
    exact begins.trans (List.prefix_append _ _)

/-! ## Extractions -/

theorem Carries.isPrefix {uploads more : List Upload} {params : Params} {dialect : Dialect}
    (carries : Carries uploads params) (read : params.readings dialect = more.map .ok) :
    uploads <+: more := by
  obtain ⟨value, others, held, later, begins⟩ := carries
  rw [Params.readings, Params.reservedLeaves, held, Value.leavesAll_cons, ← begins,
    List.append_assoc, List.flatMap_append, flatMap_readings_upload] at read
  obtain ⟨front, rest, rfl, same, -⟩ := List.map_eq_append_iff.1 read.symm
  rw [List.map_inj_right fun _ _ equal => Except.ok.inj equal] at same
  rw [same]
  exact List.prefix_append _ _

theorem referenced_subset {uploads more : List Upload} (begins : uploads <+: more) :
    referenced uploads ⊆ referenced more := by
  obtain ⟨later, rfl⟩ := begins
  rw [referenced, referenced, List.filterMap_append]
  exact List.subset_append_left _ _

section
variable {σ : Type} {uploads : List Upload} {dialect : Dialect} {files : FileManager σ}
  {params : Params} {state : σ}

theorem carries_of_result (found : uploads ≠ [])
    (result : (extractUploads dialect files params state).result = .ok uploads) :
    Carries uploads (extractUploads dialect files params state).params ∧
      ∀ file ∈ (extractUploads dialect files params state).attempts,
        file.param ∉ referenced uploads := by
  rw [extractUploads_result] at result
  have read := Results.mapM_id_eq_ok_iff.1 result
  rw [extractUploads_of_uploads read, ofUploads_of_ne_nil read found]
  constructor
  · have carried : (Value.list (uploads.map .upload)).leaves = uploads.map .upload :=
      Value.leavesAll_map_upload uploads
    exact ⟨_, _, ofGathered_reservedValues _ _, [], by rw [carried, List.append_nil]⟩
  · intro file member
    rw [ofGathered_deletions] at member
    simpa [unused] using (List.mem_filter.1 member).2

theorem Carries.extract (carries : Carries uploads params) (found : uploads ≠ []) :
    let outcome := extractUploads dialect files params state
    Carries uploads outcome.params ∧ (∀ more, outcome.result = .ok more → uploads <+: more) ∧
      ∀ file ∈ outcome.attempts, file.param ∉ referenced uploads := by
  intro outcome
  cases result : outcome.result with
  | error refusal =>
      have unchanged : outcome = ⟨.error refusal, params, [], [], state⟩ :=
        extractUploads_of_error result
      rw [unchanged]
      exact ⟨carries, nofun, nofun⟩
  | ok more =>
      have begins : uploads <+: more := by
        have read : params.readings dialect = more.map .ok := by
          rw [← Results.mapM_id_eq_ok_iff, ← result]
          exact (extractUploads_result ..).symm
        exact carries.isPrefix read
      have foundMore : more ≠ [] := by
        rintro rfl
        exact found (List.prefix_nil.1 begins)
      obtain ⟨⟨value, others, held, kept⟩, spared⟩ := carries_of_result foundMore result
      refine ⟨⟨value, others, held, (begins.map _).trans kept⟩, ?_, ?_⟩
      · intro again same
        rw [← Except.ok.inj same]
        exact begins
      · exact fun file member inUse => spared file member (referenced_subset begins inUse)

end

/-! ## Runs -/

theorem Carries.passes {σ : Type} {uploads : List Upload} (found : uploads ≠ [])
    (steps : List (Step σ)) (params : Params) (state : σ) (carries : Carries uploads params) :
    ∀ pass ∈ passes steps params state,
      (∀ more, pass.outcome.result = .ok more → uploads <+: more) ∧
        ∀ file ∈ pass.outcome.attempts, file.param ∉ referenced uploads := by
  induction steps generalizing params state with
  | nil => nofun
  | cons step steps ih =>
      cases step with
      | append name value => exact ih _ _ (carries.append name value)
      | extract dialect files =>
          obtain ⟨carriesAfter, begins, spared⟩ := carries.extract found
          intro pass member
          rcases List.mem_cons.1 member with rfl | later
          · exact ⟨begins, spared⟩
          · exact ih _ _ carriesAfter pass later

theorem passes_keep_uploads {σ : Type} (steps : List (Step σ)) (params : Params) (state : σ) :
    (passes steps params state).Pairwise (fun earlier later =>
      ∀ uploads, earlier.outcome.result = .ok uploads → uploads ≠ [] →
        (∀ more, later.outcome.result = .ok more → uploads <+: more) ∧
        ∀ file ∈ later.outcome.attempts, file.param ∉ referenced uploads) ∧
    ∀ pass ∈ passes steps params state, ∀ refusal, pass.outcome.result = .error refusal →
      pass.outcome = ⟨.error refusal, pass.params, [], [], pass.state⟩ := by
  induction steps generalizing params state with
  | nil => exact ⟨.nil, nofun⟩
  | cons step steps ih =>
      cases step with
      | append name value => exact ih _ _
      | extract dialect files =>
          obtain ⟨pairs, refusals⟩ := ih (extractUploads dialect files params state).params
            (extractUploads dialect files params state).state
          constructor
          · refine List.pairwise_cons.2 ⟨?_, pairs⟩
            intro later member uploads result found
            exact Carries.passes found steps _ _ (carries_of_result found result).1 later member
          · intro pass member refusal result
            rcases List.mem_cons.1 member with rfl | later
            · exact extractUploads_of_error result
            · exact refusals pass later refusal result

theorem passes_keep_uploads_resubmitted :
    let kept : StagedFile := ⟨"f", "/staging/1", none, none, none⟩
    let newer : StagedFile := ⟨"f", "/staging/2", none, none, none⟩
    let spare : StagedFile := ⟨"h", "/staging/3", none, none, none⟩
    let uploads : List Upload := [⟨"a", .inline kept⟩]
    let refusing : FileManager Unit := { delete := fun _ state => (⟨some "read-only", []⟩, state) }
    let steps : List (Step Unit) :=
      [.extract .tap refusing, .append "f" (.file newer), .append "h" (.file spare),
        .append "upload" (.text "b,param:f"), .extract .dali refusing, .append "UPLOAD" (.text "c"),
        .extract .tap .keep]
    let start := Params.collect [("UPLOAD", .text "a,param:f"), ("f", .file kept)]
    let first := extractUploads .tap refusing start ()
    let resubmitted := ((first.params.append "f" (.file newer)).append "h" (.file spare)).append
      "upload" (.text "b,param:f")
    let second := extractUploads .dali refusing resubmitted first.state
    let mistaken := second.params.append "UPLOAD" (.text "c")
    let last := extractUploads .tap .keep mistaken second.state
    passes steps start () =
        [⟨start, (), first⟩, ⟨resubmitted, first.state, second⟩, ⟨mistaken, second.state, last⟩] ∧
      first.result = .ok uploads ∧ second.result = .ok (uploads ++ [⟨"b", .inline newer⟩]) ∧
      second.attempts = [spare] ∧ (∀ more, second.result = .ok more → uploads <+: more) ∧
      (∀ file ∈ second.attempts, file.param ∉ referenced uploads) ∧
      last = ⟨.error (.malformed "c" .noDeclaration), mistaken, [], [], second.state⟩ := by
  intro kept newer spare uploads refusing steps start first resubmitted second mistaken last
  have session : passes steps start () =
      [⟨start, (), first⟩, ⟨resubmitted, first.state, second⟩, ⟨mistaken, second.state, last⟩] := by
    simp only [steps, passes, first, resubmitted, second, mistaken, last]
  have found : first.result = .ok uploads := by decide +kernel
  have foundAgain : second.result = .ok (uploads ++ [⟨"b", .inline newer⟩]) := by decide +kernel
  have attempted : second.attempts = [spare] := by decide +kernel
  have refused : last.result = .error (.malformed "c" .noDeclaration) := by decide +kernel
  obtain ⟨pairs, refusals⟩ := passes_keep_uploads steps start ()
  rw [session] at pairs refusals
  -- Opaque from here on: comparing passes would otherwise run the extractions.
  clear_value first second last
  obtain ⟨begins, spared⟩ :=
    (List.pairwise_cons.1 pairs).1 _ (.head _) uploads found (by simp [uploads])
  exact ⟨session, found, foundAgain, attempted, begins, spared,
    refusals _ (.tail _ (.tail _ (.head _))) _ refused⟩

end RequestUploads
