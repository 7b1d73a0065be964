import RequestUploads.Proofs.Canonical
import RequestUploads.Proofs.Deletions
import RequestUploads.Proofs.Submissions

/-!
# Submissions of different parameters in another order

An extraction looks other parameters up by their names and passes through the reserved ones in their
order.  So parameters in another order with the same values and the same order of the reserved names
(`Params.Agrees`) are read alike, and what is left and deleted of them differs in its order only.
Submissions make such parameters if those of each name come in the same order, however they are
interleaved with those of other names (`extractUploads_interleaved`).
-/

namespace RequestUploads
open Params

def reservedSpellings (submissions : List (String × Value)) : List String :=
  (submissions.map (·.1)).eraseDups.filter isReserved

namespace Params

def reserved (params : Params) : Params := params.retain fun name _ => isReserved name

theorem names_reserved (params : Params) :
    params.reserved.names = params.names.filter isReserved := by
  rw [names, names, List.filter_map]
  rfl

theorem get?_reserved (params : Params) {name : String} (spelling : isReserved name = true) :
    params.reserved.get? name = params.get? name :=
  find?_filter_of_kept isReserved spelling params.entries

/-- The same values under all names, and the reserved names in the same order. -/
structure Agrees (params others : Params) : Prop where
  nodup : params.names.Nodup
  othersNodup : others.names.Nodup
  values : ∀ name, others.get? name = params.get? name
  spellings : others.names.filter isReserved = params.names.filter isReserved

theorem agrees_collect {first second : List (String × Value)}
    (values : ∀ name, submitted name first = submitted name second)
    (spellings : reservedSpellings first = reservedSpellings second) :
    (collect first).Agrees (collect second) := by
  constructor
  · exact nodup_collect first
  · exact nodup_collect second
  · intro name
    rw [get?_collect, get?_collect, values]
  · rw [names_collect, names_collect]
    exact spellings.symm

namespace Agrees

variable {params others : Params}

/-! ## What is read -/

theorem stagedFile (agrees : params.Agrees others) (name : String) :
    others.stagedFile name = params.stagedFile name := by
  unfold Params.stagedFile
  rw [agrees.values]

theorem parse (agrees : params.Agrees others) (declaration : String) :
    Upload.parse declaration others = Upload.parse declaration params := by
  simp only [Upload.parse, Upload.resolve, agrees.stagedFile]

theorem leafReadings (agrees : params.Agrees others) (dialect : Dialect) :
    Value.readings dialect others = Value.readings dialect params := by
  funext leaf
  cases leaf with
  | text raw => simp only [Value.readings, agrees.parse]
  | null | file _ | upload _ | list _ => rfl

theorem reserved_entries (agrees : params.Agrees others) :
    others.reserved.entries = params.reserved.entries := by
  -- Names that differ are needed: what is found under the names is then all there is.
  apply entries_eq_of_get?
  · exact nodup_retain agrees.nodup _
  · rw [names_reserved, names_reserved, agrees.spellings]
  · intro name member
    rw [names_reserved, List.mem_filter] at member
    rw [get?_reserved _ member.2, get?_reserved _ member.2, agrees.values]

theorem reservedLeaves (agrees : params.Agrees others) :
    others.reservedLeaves = params.reservedLeaves := by
  have values : others.reservedValues = params.reservedValues :=
    congrArg (List.map Prod.snd) agrees.reserved_entries
  rw [Params.reservedLeaves, Params.reservedLeaves, values]

theorem readings (agrees : params.Agrees others) (dialect : Dialect) :
    others.readings dialect = params.readings dialect := by
  rw [Params.readings, Params.readings, agrees.reservedLeaves, agrees.leafReadings]

/-! ## What is left -/

theorem unreserved_perm (agrees : params.Agrees others) :
    others.unreserved.entries.Perm params.unreserved.entries :=
  (entries_perm_of_get? agrees.nodup agrees.othersNodup agrees.values).filter _

theorem left_perm (agrees : params.Agrees others) {dialect : Dialect} {uploads : List Upload}
    (read : params.readings dialect = uploads.map .ok) :
    (Extraction.ofUploads others uploads).params.entries.Perm
      (Extraction.ofUploads params uploads).params.entries := by
  have readOthers := (agrees.readings dialect).trans read
  by_cases empty : uploads = []
  · subst empty
    rw [(ofUploads_nil others).1, (ofUploads_nil params).1]
    exact agrees.unreserved_perm
  · rw [ofUploads_of_ne_nil readOthers empty, ofUploads_of_ne_nil read empty,
      ofGathered_entries_of_nodup agrees.othersNodup, ofGathered_entries_of_nodup agrees.nodup,
      pruneEntries_eq, pruneEntries_eq]
    exact (agrees.unreserved_perm.filterMap _).append_right _

end Agrees

/-! ## What is deleted -/

def deletedReserved (params : Params) (uploads : List Upload) : List StagedFile :=
  if uploads = [] then [] else params.reservedFiles.filter (unused (referenced uploads))

def deletedOthers (params : Params) (uploads : List Upload) : List StagedFile :=
  if uploads = [] then [] else params.unreserved.files.filter (unused (referenced uploads))

theorem attempts_of_result {σ : Type} {dialect : Dialect} {files : FileManager σ} {params : Params}
    {state : σ} {uploads : List Upload}
    (succeeds : (extractUploads dialect files params state).result = .ok uploads) :
    (extractUploads dialect files params state).attempts =
      params.deletedReserved uploads ++ params.deletedOthers uploads := by
  unfold deletedReserved deletedOthers
  split_ifs with empty
  · subst empty
    exact (extractUploads_of_none (.inl succeeds)).1
  · rw [(extractUploads_of_found succeeds empty).1, List.filter_append]

theorem Agrees.deletedReserved {params others : Params} (agrees : params.Agrees others)
    (uploads : List Upload) : others.deletedReserved uploads = params.deletedReserved uploads := by
  rw [Params.deletedReserved, Params.deletedReserved, reservedFiles, reservedFiles,
    agrees.reservedLeaves]

theorem Agrees.deletedOthers_perm {params others : Params} (agrees : params.Agrees others)
    (uploads : List Upload) :
    (others.deletedOthers uploads).Perm (params.deletedOthers uploads) := by
  unfold deletedOthers
  split_ifs
  · exact .nil
  · exact (agrees.unreserved_perm.flatMap_right _).filter _

end Params

/-! ## Extraction -/

theorem extractUploads_interleaved {first second : List (String × Value)}
    (values : ∀ name, submitted name first = submitted name second)
    (spellings : reservedSpellings first = reservedSpellings second) (dialect : Dialect)
    {σ τ : Type} (files : FileManager σ) (state : σ) (others : FileManager τ) (start : τ) :
    let outcome := extractUploads dialect files (collect first) state
    let other := extractUploads dialect others (collect second) start
    other.result = outcome.result ∧ other.attempts.Perm outcome.attempts ∧
      ∀ uploads, outcome.result = .ok uploads →
        other.params.entries.Perm outcome.params.entries ∧
        outcome.attempts =
          (collect first).deletedReserved uploads ++ (collect first).deletedOthers uploads ∧
        other.attempts =
          (collect first).deletedReserved uploads ++ (collect second).deletedOthers uploads := by
  intro outcome other
  have agrees := agrees_collect values spellings
  have result : other.result = outcome.result := by
    simp only [other, outcome, extractUploads_result, agrees.readings]
  have deleted : ∀ uploads, outcome.result = .ok uploads →
      outcome.attempts =
          (collect first).deletedReserved uploads ++ (collect first).deletedOthers uploads ∧
        other.attempts =
          (collect first).deletedReserved uploads ++ (collect second).deletedOthers uploads := by
    intro uploads succeeds
    constructor
    · exact attempts_of_result succeeds
    · rw [← agrees.deletedReserved]
      exact attempts_of_result (result.trans succeeds)
  refine ⟨result, ?_, ?_⟩
  · cases found : outcome.result with
    | error refusal =>
        have nothing := (extractUploads_of_none (.inr ⟨refusal, found⟩)).1
        have others := (extractUploads_of_none (.inr ⟨refusal, result.trans found⟩)).1
        rw [nothing, others]
    | ok uploads =>
        rw [(deleted uploads found).1, (deleted uploads found).2]
        exact (agrees.deletedOthers_perm uploads).append_left _
  · intro uploads succeeds
    have read := readings_of_result succeeds
    have readOthers := readings_of_result (result.trans succeeds)
    refine ⟨?_, deleted uploads succeeds⟩
    simp only [other, outcome, extractUploads_of_uploads read, extractUploads_of_uploads readOthers]
    exact agrees.left_perm read

theorem extractUploads_interleaved_spellings :
    let old : StagedFile := ⟨"f", "/staging/1", none, none, none⟩
    let new : StagedFile := ⟨"f", "/staging/2", none, none, none⟩
    let spare : StagedFile := ⟨"h", "/staging/3", none, none, none⟩
    let stray : StagedFile := ⟨"UPLOAD", "/staging/4", none, none, none⟩
    let declared : List Upload := [⟨"a", .inline new⟩, ⟨"b", .inline new⟩]
    let first : List (String × Value) :=
      [("upload", .text "a,param:f"), ("UPLOAD", .file stray), ("f", .file old), ("f", .file new),
        ("h", .file spare), ("upload", .text "b,param:f"), ("q", .text "1")]
    let second : List (String × Value) :=
      [("q", .text "1"), ("h", .file spare), ("f", .file old), ("upload", .text "a,param:f"),
        ("upload", .text "b,param:f"), ("f", .file new), ("UPLOAD", .file stray)]
    let outcome := extractUploads .tap .keep (collect first) ()
    let other := extractUploads .tap .keep (collect second) ()
    (∀ name, submitted name first = submitted name second) ∧
      reservedSpellings first = reservedSpellings second ∧ outcome.result = .ok declared ∧
      other.result = outcome.result ∧ other.attempts.Perm outcome.attempts ∧
      ∀ uploads, outcome.result = .ok uploads →
        other.params.entries.Perm outcome.params.entries ∧
        outcome.attempts =
          (collect first).deletedReserved uploads ++ (collect first).deletedOthers uploads ∧
        other.attempts =
          (collect first).deletedReserved uploads ++ (collect second).deletedOthers uploads := by
  intro old new spare stray declared first second outcome other
  have values : ∀ name, submitted name first = submitted name second := by
    apply submitted_eq_of_mem
    decide +kernel
  have spellings : reservedSpellings first = reservedSpellings second := by decide +kernel
  have succeeds : outcome.result = .ok declared := by decide +kernel
  exact ⟨values, spellings, succeeds,
    extractUploads_interleaved values spellings .tap .keep () .keep ()⟩

end RequestUploads
