import RequestUploads.Proofs.Canonical
import RequestUploads.Proofs.Origins

/-!
# Inline uploads and their declarations

The text of an inline upload is a declaration of it, before an extraction and after
(`parse_text_of_declared`).  An extraction may prune the list that the declaration refers to, but
not the file that it found there: a file that is referred to stays, pruning makes no other item a
file, so it is still the last one (`lastFile?_pruneAll`).
-/

namespace RequestUploads

def Params.KeepsOwn (params : Params) : Prop :=
  ∀ entry ∈ params.entries, ∀ file ∈ entry.2.files, file.param = entry.1

instance : DecidablePred Params.KeepsOwn := fun params =>
  inferInstanceAs
    (Decidable (∀ entry ∈ params.entries, ∀ file ∈ entry.2.files, file.param = entry.1))

/-! ## Look-ups in what is left -/

theorem find?_pruneEntries {name : String} (used : List String) {entries : List (String × Value)}
    (nodup : (entries.map (·.1)).Nodup) :
    Params.find? name (pruneEntries used entries).1 =
      (Params.find? name entries).bind fun value => (prune used value).1 := by
  -- Names that differ are needed: else another entry of the name would be found in the place of one
  -- of which nothing is left.
  induction entries with
  | nil => rfl
  | cons entry entries ih =>
      obtain ⟨key, value⟩ := entry
      obtain ⟨absent, others⟩ := List.nodup_cons.1 nodup
      have later := ih others
      rw [pruneEntries_cons]
      by_cases same : key = name
      · subst same
        have gone : Params.find? key (pruneEntries used entries).1 = none :=
          Params.find?_eq_none_iff.2 fun member =>
            absent ((pruneEntries_names used entries).subset member)
        cases left : (prune used value).1 <;> simp [Params.find?, left, gone]
      · cases left : (prune used value).1 <;> simp [Params.find?, same, later]

theorem Params.get?_unreserved (params : Params) {name : String} (free : isReserved name = false) :
    params.unreserved.get? name = params.get? name :=
  Params.find?_filter_of_kept (fun key => !isReserved key) (by simp [free]) params.entries

section
variable {σ : Type} {dialect : Dialect} {files : FileManager σ} {params : Params} {state : σ}
  {uploads : List Upload}

theorem get?_of_result (nodup : params.names.Nodup)
    (succeeds : (extractUploads dialect files params state).result = .ok uploads)
    (found : uploads ≠ []) {name : String} (free : isReserved name = false) :
    (extractUploads dialect files params state).params.get? name =
      (params.get? name).bind fun value => (prune (referenced uploads) value).1 := by
  have read := readings_of_result succeeds
  have differ : name ≠ uploadParam := by
    rintro rfl
    exact absurd free (by decide)
  have collected := Params.collect_of_nodup (nodup_names_left nodup (referenced uploads))
  rw [extractUploads_of_uploads read, ofUploads_of_ne_nil read found, ← params.get?_unreserved free]
  calc (Extraction.ofGathered params ⟨uploads, params.reservedFiles⟩).params.get? name
      = (Params.collect (pruneEntries (referenced uploads) params.unreserved.entries).1).get?
          name := Params.find?_alter_of_ne differ _ _
    _ = Params.find? name (pruneEntries (referenced uploads) params.unreserved.entries).1 := by
        rw [collected, Params.get?]
    _ = _ := find?_pruneEntries _ (Params.nodup_retain nodup _)

theorem file?_prune {used : List String} {value left : Value}
    (kept : (prune used value).1 = some left) : left.file? = value.file? := by
  cases value with
  | null => cases kept
  | text _ | upload _ => cases kept; rfl
  | file found =>
      by_cases inUse : found.param ∈ used
      · simp only [prune, inUse, if_true, Option.some.injEq] at kept
        rw [kept]
      · simp [prune, inUse] at kept
  | list items =>
      rw [prune_list_fst] at kept
      split_ifs at kept
      cases kept
      rfl

theorem prune_file_of_mem {used : List String} {file : StagedFile} (inUse : file.param ∈ used) :
    prune used (.file file) = (some (.file file), []) := by
  simp [prune, inUse]

theorem lastFile?_pruneAll {used : List String} {items : List Value} {file : StagedFile}
    (inUse : file.param ∈ used) (last : Params.lastFile? items = some file) :
    Params.lastFile? (pruneAll used items).1 = some file := by
  rw [Params.lastFile?, List.findSome?_eq_some_iff] at last
  obtain ⟨later, item, earlier, reversed, isFile, others⟩ := last
  obtain rfl := eq_file_of_file? isFile
  rw [pruneAll_eq, Params.lastFile?, ← List.filterMap_reverse, reversed, List.filterMap_append,
    List.filterMap_cons, prune_file_of_mem inUse, List.findSome?_eq_some_iff]
  refine ⟨_, .file file, _, rfl, rfl, ?_⟩
  intro left member
  obtain ⟨before, inLater, kept⟩ := List.mem_filterMap.1 member
  rw [file?_prune kept, others before inLater]

theorem stagedFile_of_result (nodup : params.names.Nodup)
    (succeeds : (extractUploads dialect files params state).result = .ok uploads)
    (found : uploads ≠ []) {name : String} (free : isReserved name = false) {file : StagedFile}
    (inUse : file.param ∈ referenced uploads) (staged : params.stagedFile name = .ok file) :
    (extractUploads dialect files params state).params.stagedFile name = .ok file := by
  have after := get?_of_result nodup succeeds found free
  rw [Params.stagedFile_eq_ok_iff, after]
  rcases Params.stagedFile_eq_ok_iff.1 staged with held | ⟨items, held, last⟩
  · left
    rw [held, Option.bind_some, prune_file_of_mem inUse]
  · right
    have lastLeft := lastFile?_pruneAll inUse last
    have nonempty : (pruneAll (referenced uploads) items).1 ≠ [] := by
      intro empty
      rw [empty] at lastLeft
      cases lastLeft
    refine ⟨(pruneAll (referenced uploads) items).1, ?_, lastLeft⟩
    rw [held, Option.bind_some, prune_list_fst, if_neg nonempty]

end

/-! ## The marker of a reference -/

theorem Ascii.dropIgnoringCase?_append (head s : List Char) :
    dropIgnoringCase? head (head ++ s) = some s := by
  induction head with
  | nil => rfl
  | cons h head ih => simp [dropIgnoringCase?, ih]

theorem Ascii.eq_append_of_dropIgnoringCase? {head s rest : List Char}
    (dropped : dropIgnoringCase? head s = some rest) :
    ∃ front, s = front ++ rest ∧ lower front = lower head := by
  induction head generalizing s with
  | nil => exact ⟨[], Option.some.inj dropped, rfl⟩
  | cons h head ih =>
      cases s with
      | nil => cases dropped
      | cons c s =>
          rw [dropIgnoringCase?] at dropped
          split_ifs at dropped with same
          obtain ⟨front, rfl, lowered⟩ := ih dropped
          exact ⟨c :: front, rfl, by rw [lower_cons, lower_cons, same, lowered]⟩

theorem isTarget_of_marked {target name : List Char} (isTarget : Declaration.IsTarget target)
    (marked : Ascii.dropIgnoringCase? paramMarker target = some name) :
    Declaration.IsTarget (paramMarker ++ name) := by
  -- The marker ends with the first colon of a target, so what follows it is the rest of the target.
  obtain ⟨scheme, rest, isScheme, nonempty, oneLine, rfl⟩ := Declaration.isTarget_iff.1 isTarget
  have freeScheme : ':' ∉ scheme :=
    Declaration.not_mem_scheme isScheme Scheme.not_isChar_colon
  have freeName : ':' ∉ "param".toList := by decide
  have lowered := Ascii.lower_eq_of_dropIgnoringCase? freeName freeScheme marked
  obtain ⟨front, divided, lowerFront⟩ := Ascii.eq_append_of_dropIgnoringCase? marked
  have schemeLength : scheme.length = 5 := by simpa using congrArg List.length lowered
  have frontLength : front.length = 6 := by
    simpa [paramMarker] using congrArg List.length lowerFront
  have same : (scheme ++ [':']) ++ rest = front ++ name := by simpa using divided
  obtain ⟨-, rfl⟩ := List.append_inj same (by simp [schemeLength, frontLength])
  exact Declaration.isTarget_iff.2 ⟨"param".toList, rest, by decide, nonempty, oneLine, rfl⟩

/-! ## Declarations of inline uploads -/

theorem param_eq_of_stagedFile {params : Params} (own : params.KeepsOwn) {name : String}
    {file : StagedFile} (staged : params.stagedFile name = .ok file) : file.param = name := by
  rcases Params.holds_of_stagedFile staged with held | ⟨items, held, member⟩
  · exact own _ (Params.mem_of_find? held) file (by simp [Value.files, Value.file?])
  · refine own _ (Params.mem_of_find? held) file ?_
    rw [Value.files, Value.leaves_list, Value.leavesAll_eq_flatMap, List.mem_filterMap]
    exact ⟨.file file, List.mem_flatMap.2 ⟨.file file, member, by simp⟩, rfl⟩

theorem parse_text_of_stagedFile {params : Params} {label : String} {file : StagedFile}
    (isLabel : Declaration.IsLabel label.toList)
    (isTarget : Declaration.IsTarget (paramMarker ++ file.param.toList))
    (staged : params.stagedFile file.param = .ok file) :
    Upload.parse (Upload.text ⟨label, .inline file⟩) params = .ok ⟨label, .inline file⟩ := by
  refine Upload.parse_eq_ok_iff.2 ⟨label, "param:" ++ file.param, ?_, ?_⟩
  · refine Declaration.pair_eq_ok_iff.2 ⟨isLabel, ?_, ?_⟩
    · rw [String.toList_append]
      exact isTarget
    · simp [Upload.text, Upload.targetText]
  · refine Upload.resolve_eq_ok_iff.2 (.inl ⟨file.param.toList, file, ?_, ?_, rfl⟩)
    · rw [String.toList_append]
      exact Ascii.dropIgnoringCase?_append _ _
    · rw [String.ofList_toList]
      exact staged

theorem parse_text_of_declared {σ : Type} {params : Params} (reachable : params.Reachable)
    (own : params.KeepsOwn) (dialect : Dialect) (files : FileManager σ) (state : σ)
    (uploads : List Upload)
    (succeeds : (extractUploads dialect files params state).result = .ok uploads)
    (upload : Upload) (returned : upload ∈ uploads)
    (declared : ∃ raw, .text raw ∈ params.reservedLeaves ∧ Declares dialect params raw upload)
    (file : StagedFile) (inline : upload.source = .inline file)
    (free : isReserved file.param = false) :
    Upload.parse upload.text (extractUploads dialect files params state).params = .ok upload := by
  obtain ⟨raw, -, declares⟩ := declared
  cases declares with
  | @intro _ _ label _ source _ _ parses _ isLabel _ =>
      obtain rfl : source = .inline file := inline
      obtain ⟨front, target, accepted, resolves⟩ := Upload.parse_eq_ok_iff.1 parses
      obtain ⟨-, isTarget, -⟩ := Declaration.pair_eq_ok_iff.1 accepted
      rcases Upload.resolve_eq_ok_iff.1 resolves with
        ⟨name, other, marked, staged, same⟩ | ⟨-, remote⟩
      · obtain ⟨-, sameFile⟩ := Upload.mk.inj same
        obtain rfl := Source.inline.inj sameFile
        have named := param_eq_of_stagedFile own staged
        have inUse : file.param ∈ referenced uploads :=
          List.mem_filterMap.2 ⟨_, returned, rfl⟩
        have isReference : Declaration.IsTarget (paramMarker ++ file.param.toList) := by
          rw [named, String.toList_ofList]
          exact isTarget_of_marked isTarget marked
        rw [← named] at staged
        exact parse_text_of_stagedFile isLabel isReference
          (stagedFile_of_result reachable.nodup succeeds (List.ne_nil_of_mem returned) free inUse
            staged)
      · obtain ⟨uri, isRemote, -⟩ := Upload.remote_of_resolveUri remote
        cases (Upload.mk.inj isRemote).2

theorem parse_text_of_declared_pruned :
    let first : StagedFile := ⟨"f,;%3B", "/staging/1", none, none, none⟩
    let last : StagedFile := ⟨"f,;%3B", "/staging/2", some "t.xml", none, some 10⟩
    let spare : StagedFile := ⟨"h", "/staging/3", none, none, none⟩
    let upload : Upload := ⟨"a_1", .inline last⟩
    let params := Params.collect
      [("f,;%3B", .file first), ("h", .list [.null, .file spare]),
        ("upload", .list [.null, .text "a_1,PaRam:f,;%3B"]), ("f,;%3B", .null),
        ("f,;%3B", .file last), ("f,;%3B", .list [.list [], .null])]
    let outcome := extractUploads .tap .keep params ()
    params.Reachable ∧ params.KeepsOwn ∧ outcome.result = .ok [upload] ∧
      (∃ raw, .text raw ∈ params.reservedLeaves ∧ Declares .tap params raw upload) ∧
      isReserved last.param = false ∧ Upload.parse upload.text outcome.params = .ok upload := by
  intro first last spare upload params outcome
  have reachable : params.Reachable := .collect _
  have own : params.KeepsOwn := by decide +kernel
  have succeeds : outcome.result = .ok [upload] := by decide +kernel
  have declared : ∃ raw, .text raw ∈ params.reservedLeaves ∧ Declares .tap params raw upload := by
    have division : Declaration.split .tap "a_1,PaRam:f,;%3B" = .ok ["a_1,PaRam:f,;%3B"] := by
      decide +kernel
    have parses : Upload.parse "a_1,PaRam:f,;%3B" params = .ok upload := by decide +kernel
    exact ⟨_, by decide +kernel, declares_of_parse division List.mem_cons_self parses⟩
  have free : isReserved last.param = false := by decide +kernel
  exact ⟨reachable, own, succeeds, declared, free,
    parse_text_of_declared reachable own .tap .keep () [upload] succeeds upload (by simp) declared
      last rfl free⟩

end RequestUploads
