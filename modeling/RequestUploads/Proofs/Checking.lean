import RequestUploads.Command.Check
import RequestUploads.Proofs.Origins

/-!
# What checking says about extraction

Checking a value goes as far as extraction goes with a text before it looks anything up: the value
is divided, and each declaration is a pair (`Command.checkValue_eq_ok_iff`).  If a request with a
text in a reserved parameter is accepted, the check lists the uploads that the text gives, and a
value that the check refuses is refused in every request.  What the check cannot see is where the
targets lead, and nothing else makes a request be refused for a text that it accepts
(`Command.checkValue_sound`).
-/

namespace RequestUploads
open Results

namespace Command

/-! ## Lines -/

theorem checkDeclaration_eq_ok_iff {declaration line : String} :
    checkDeclaration declaration = .ok line ↔
      ∃ label target, Declaration.pair declaration = .ok (label, target) ∧
        line = label ++ " -> " ++ target := by
  unfold checkDeclaration
  cases accepted : Declaration.pair declaration with
  | error refusal => simp
  | ok parts =>
      obtain ⟨label, target⟩ := parts
      constructor
      · intro listed
        exact ⟨label, target, rfl, (Except.ok.inj listed).symm⟩
      · rintro ⟨_, _, same, rfl⟩
        obtain ⟨rfl, rfl⟩ := Prod.mk.inj (Except.ok.inj same)
        rfl

theorem checkValue_eq_ok_iff {dialect : Dialect} {value : String} {lines : List String} :
    checkValue dialect value = .ok lines ↔
      ∃ declarations, Declaration.split dialect value = .ok declarations ∧
        List.Forall₂ (fun declaration line => checkDeclaration declaration = .ok line)
          declarations lines := by
  unfold checkValue
  cases Declaration.split dialect value with
  | error refusal => simp
  | ok declarations => simp [mapM_eq_ok_iff]

/-- The line has the label of the upload and the target that leads to its content. -/
def Lists (params : Params) (line : String) (upload : Upload) : Prop :=
  ∃ target, line = upload.label ++ " -> " ++ target ∧
    Upload.resolve (some upload.label) target params = .ok upload

theorem exists_line_of_parse {params : Params} {declaration : String} {upload : Upload}
    (parses : Upload.parse declaration params = .ok upload) :
    ∃ line, checkDeclaration declaration = .ok line ∧ Lists params line upload := by
  obtain ⟨label, target, accepted, resolves⟩ := Upload.parse_eq_ok_iff.1 parses
  obtain rfl := Upload.label_of_resolve resolves
  exact ⟨_, checkDeclaration_eq_ok_iff.2 ⟨_, target, accepted, rfl⟩, target, rfl, resolves⟩

theorem exists_lines_of_readings {dialect : Dialect} {params : Params} {raw : String}
    {uploads : List Upload} (visible : Blank.trim raw.toList ≠ [])
    (read : (Value.text raw).readings dialect params = uploads.map .ok) :
    ∃ lines, checkValue dialect raw = .ok lines ∧ List.Forall₂ (Lists params) lines uploads := by
  simp only [Value.readings, if_neg visible] at read
  cases division : Declaration.split dialect raw with
  | error refusal =>
      rw [division] at read
      have failure : .error refusal ∈ uploads.map Except.ok := by simp [← read]
      simp at failure
  | ok declarations =>
      simp only [division] at read
      have each : List.Forall₂ (fun upload declaration =>
          ∃ line, checkDeclaration declaration = .ok line ∧ Lists params line upload)
          uploads declarations := by
        have parsed : declarations.mapM (Upload.parse · params) = .ok uploads := by
          rw [← mapM_id_eq_ok_iff, List.mapM_map] at read
          exact read
        exact (mapM_eq_ok_iff.1 parsed).flip.imp fun _ _ parses => exists_line_of_parse parses
      obtain ⟨lines, checked, listed⟩ := exists_mapM_of_forall₂ each
      refine ⟨lines, ?_, listed.flip⟩
      simp only [checkValue, division, checked]

/-! ## Requests with the value -/

/-- What is refused of a text with an accepted value is where one of its targets leads. -/
theorem resolve_of_refusedFor {dialect : Dialect} {params : Params} {raw : String}
    {lines : List String} {refusal : UploadError} (checked : checkValue dialect raw = .ok lines)
    (refused : RefusedFor dialect params raw refusal) :
    ∃ declarations, Declaration.split dialect raw = .ok declarations ∧
      (∀ declaration ∈ declarations, ∃ parts, Declaration.pair declaration = .ok parts) ∧
      ∃ declaration ∈ declarations, ∃ label target,
        Declaration.pair declaration = .ok (label, target) ∧
        Upload.resolve (some label) target params = .error refusal := by
  obtain ⟨declarations, division, each⟩ := checkValue_eq_ok_iff.1 checked
  have accepted : ∀ declaration ∈ declarations,
      ∃ label target, Declaration.pair declaration = .ok (label, target) := by
    intro declaration member
    obtain ⟨line, -, listed⟩ := exists_of_mem_right each.flip member
    obtain ⟨label, target, pair, -⟩ := checkDeclaration_eq_ok_iff.1 listed
    exact ⟨label, target, pair⟩
  refine ⟨declarations, division, fun declaration member => ?_, ?_⟩
  · obtain ⟨label, target, pair⟩ := accepted declaration member
    exact ⟨(label, target), pair⟩
  · obtain ⟨-, undivided | ⟨before, declaration, after, same, -, parses⟩⟩ := refused
    · rw [division] at undivided
      cases undivided
    · obtain rfl := Except.ok.inj (division.symm.trans same)
      have member : declaration ∈ before ++ declaration :: after := by simp
      obtain ⟨label, target, pair⟩ := accepted declaration member
      refine ⟨declaration, member, label, target, pair, ?_⟩
      rwa [Upload.parse, pair, ok_bind] at parses

theorem exists_lines_of_result {σ : Type} {dialect : Dialect} {raw : String} {params : Params}
    {before after : List Value} {files : FileManager σ} {state : σ} {uploads : List Upload}
    (visible : Blank.trim raw.toList ≠ [])
    (placed : params.reservedLeaves = before ++ .text raw :: after)
    (succeeds : (extractUploads dialect files params state).result = .ok uploads) :
    ∃ earlier own later lines, uploads = earlier ++ own ++ later ∧
      before.flatMap (Value.readings dialect params) = earlier.map .ok ∧
      (Value.text raw).readings dialect params = own.map .ok ∧
      after.flatMap (Value.readings dialect params) = later.map .ok ∧
      checkValue dialect raw = .ok lines ∧ List.Forall₂ (Lists params) lines own := by
  have read := readings_of_result succeeds
  rw [Params.readings, placed, List.flatMap_append, List.flatMap_cons, ← List.append_assoc] at read
  obtain ⟨front, later, rfl, readFront, readLater⟩ := List.map_eq_append_iff.1 read.symm
  obtain ⟨earlier, own, rfl, readEarlier, readOwn⟩ := List.map_eq_append_iff.1 readFront
  obtain ⟨lines, checked, each⟩ := exists_lines_of_readings visible readOwn.symm
  exact ⟨earlier, own, later, lines, rfl, readEarlier.symm, readOwn.symm, readLater.symm,
    checked, each⟩

theorem checkValue_sound {σ : Type} (dialect : Dialect) (raw : String)
    (visible : Blank.trim raw.toList ≠ []) (params : Params) (before after : List Value)
    (placed : params.reservedLeaves = before ++ .text raw :: after) (files : FileManager σ)
    (state : σ) :
    let outcome := extractUploads dialect files params state
    (∀ uploads, outcome.result = .ok uploads →
      ∃ earlier own later lines, uploads = earlier ++ own ++ later ∧
        before.flatMap (Value.readings dialect params) = earlier.map .ok ∧
        (Value.text raw).readings dialect params = own.map .ok ∧
        after.flatMap (Value.readings dialect params) = later.map .ok ∧
        checkValue dialect raw = .ok lines ∧ List.Forall₂ (Lists params) lines own) ∧
    (∀ failure, checkValue dialect raw = .error failure →
      ∃ refusal, outcome.result = .error refusal) ∧
    ∀ lines refusal, checkValue dialect raw = .ok lines → outcome.result = .error refusal →
      (∀ earlier, .text earlier ∈ before → ¬Unreadable dialect params earlier) →
      Unreadable dialect params raw →
      ∃ declarations, Declaration.split dialect raw = .ok declarations ∧
        (∀ declaration ∈ declarations, ∃ parts, Declaration.pair declaration = .ok parts) ∧
        ∃ declaration ∈ declarations, ∃ label target,
          Declaration.pair declaration = .ok (label, target) ∧
          Upload.resolve (some label) target params = .error refusal := by
  intro outcome
  refine ⟨fun uploads => exists_lines_of_result visible placed, ?_, ?_⟩
  · intro failure refusedByCheck
    cases result : outcome.result with
    | error refusal => exact ⟨refusal, rfl⟩
    | ok uploads =>
        obtain ⟨-, -, -, lines, -, -, -, -, checked, -⟩ :=
          exists_lines_of_result visible placed result
        rw [refusedByCheck] at checked
        cases checked
  · intro lines refusal checked result readable unreadable
    obtain ⟨first, refused⟩ := unreadable_iff.1 unreadable
    have outcomeIs := readings_eq_error_iff.2 ⟨before, raw, after, placed, readable, refused⟩
    rw [← extractUploads_result dialect files params state, result] at outcomeIs
    rw [Except.error.inj outcomeIs]
    exact resolve_of_refusedFor checked refused

theorem checkValue_sound_nested :
    let file : StagedFile := ⟨"f;g", "/staging/f", none, none, none⟩
    let raw := "a,PaRaM:f;g;b_2,urn:x"
    let uploads : List Upload :=
      [⟨"c", .inline file⟩, ⟨"a", .inline file⟩,
        ⟨"b_2", .remote ⟨"urn", none, .rootless "x", none, none⟩⟩]
    let params := Params.collect
      [("Upload", .text "c,param:f;g"), ("f;g", .file file), ("Upload", .list [.text raw, .null])]
    Blank.trim raw.toList ≠ [] ∧
      params.reservedLeaves = [.text "c,param:f;g"] ++ .text raw :: [.null] ∧
      (extractUploads .tap .keep params ()).result = .ok uploads ∧
      ∃ own lines, (Value.text raw).readings .tap params = own.map .ok ∧
        checkValue .tap raw = .ok lines ∧ List.Forall₂ (Lists params) lines own := by
  intro file raw uploads params
  have visible : Blank.trim raw.toList ≠ [] := by decide +kernel
  have placed : params.reservedLeaves = [.text "c,param:f;g"] ++ .text raw :: [.null] := by
    decide +kernel
  have succeeds : (extractUploads .tap .keep params ()).result = .ok uploads := by decide +kernel
  have sound := checkValue_sound .tap raw visible params _ _ placed .keep ()
  obtain ⟨_, own, _, lines, -, -, read, -, checked, listed⟩ := sound.1 uploads succeeds
  exact ⟨visible, placed, succeeds, own, lines, read, checked, listed⟩

end Command

end RequestUploads
