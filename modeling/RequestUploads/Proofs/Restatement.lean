import RequestUploads.Proofs.TextForm

/-!
# Other ways to put the same uploads

An extraction goes through the leaves of the reserved parameters and has no eye for the lists and
the spellings that they are in.  Leaves of which nothing is read may come and go, and a text may be
replaced by the uploads that it declares (`Restates`).  What is left of the texts must not refer to
reserved parameters, since these are what changes.  Then the same uploads are found, the same
parameters left and the same files deleted (`extractUploads_restated`).
-/

namespace RequestUploads
open Results

/-! ## Leaves put differently -/

def Value.IsVoid : Value → Prop
  | .null => True
  | .text raw => Blank.trim raw.toList = []
  | .file _ | .upload _ | .list _ => False

/-- The same leaves but for nulls and blank texts, with uploads in the place of some of the texts
that declare them. -/
inductive Restates (dialect : Dialect) (params : Params) : List Value → List Value → Prop
  | nil : Restates dialect params [] []
  | keep {leaves others : List Value} (leaf : Value) :
      Restates dialect params leaves others →
      Restates dialect params (leaf :: leaves) (leaf :: others)
  | add {leaves others : List Value} {leaf : Value} :
      leaf.IsVoid → Restates dialect params leaves others →
      Restates dialect params leaves (leaf :: others)
  | remove {leaves others : List Value} {leaf : Value} :
      leaf.IsVoid → Restates dialect params leaves others →
      Restates dialect params (leaf :: leaves) others
  | resolve {leaves others : List Value} {raw : String} {uploads : List Upload} :
      declaredUploads dialect params raw = .ok uploads → Restates dialect params leaves others →
      Restates dialect params (.text raw :: leaves) (uploads.map .upload ++ others)

def Declaration.refersToReserved (declaration : String) : Bool :=
  match Declaration.pair declaration with
  | .error _ => false
  | .ok (_, target) => match Ascii.dropIgnoringCase? paramMarker target.toList with
    | some name => isReserved (String.ofList name)
    | none => false

def Value.refersToReserved (dialect : Dialect) : Value → Bool
  | .text raw => match Declaration.split dialect raw with
    | .error _ => false
    | .ok declarations => declarations.any Declaration.refersToReserved
  | .null | .file _ | .upload _ | .list _ => false

/-! ## What is read of them -/

theorem Value.readings_of_isVoid {leaf : Value} (void : leaf.IsVoid) (dialect : Dialect)
    (params : Params) : leaf.readings dialect params = [] := by
  cases leaf with
  | text raw => exact if_pos void
  | null => rfl
  | file _ | upload _ | list _ => exact void.elim

theorem Value.file?_of_isVoid {leaf : Value} (void : leaf.IsVoid) : leaf.file? = none := by
  cases leaf with
  | null | text _ => rfl
  | file _ | upload _ | list _ => exact void.elim

section
variable {dialect : Dialect} {params others : Params}

theorem stagedFile_of_unreserved (same : others.unreserved = params.unreserved) {name : String}
    (free : isReserved name = false) : others.stagedFile name = params.stagedFile name := by
  have found : others.get? name = params.get? name := by
    rw [← others.get?_unreserved free, same, params.get?_unreserved free]
  unfold Params.stagedFile
  rw [found]

theorem parse_of_unreserved (same : others.unreserved = params.unreserved) {declaration : String}
    (free : Declaration.refersToReserved declaration = false) :
    Upload.parse declaration others = Upload.parse declaration params := by
  unfold Upload.parse
  cases accepted : Declaration.pair declaration with
  | error refusal => rfl
  | ok parts =>
      obtain ⟨label, target⟩ := parts
      simp only [ok_bind, Upload.resolve]
      cases marked : Ascii.dropIgnoringCase? paramMarker target.toList with
      | none => rfl
      | some name =>
          have outside : isReserved (String.ofList name) = false := by
            simpa [Declaration.refersToReserved, accepted, marked] using free
          simp only [stagedFile_of_unreserved same outside]

theorem readings_of_unreserved (same : others.unreserved = params.unreserved) {leaf : Value}
    (free : leaf.refersToReserved dialect = false) :
    leaf.readings dialect others = leaf.readings dialect params := by
  cases leaf with
  | null | file _ | upload _ | list _ => rfl
  | text raw =>
      simp only [Value.readings]
      split_ifs with blank
      · rfl
      · cases division : Declaration.split dialect raw with
        | error refusal => rfl
        | ok declarations =>
            simp only [Value.refersToReserved, division, List.any_eq_false,
              Bool.not_eq_true] at free
            exact List.map_congr_left fun declaration member =>
              parse_of_unreserved same (free declaration member)

theorem Restates.readings (same : others.unreserved = params.unreserved) {before after : List Value}
    (restates : Restates dialect params before after)
    (free : ∀ leaf ∈ after, leaf.refersToReserved dialect = false) :
    after.flatMap (Value.readings dialect others) =
      before.flatMap (Value.readings dialect params) := by
  induction restates with
  | nil => rfl
  | keep leaf _ ih =>
      -- what the leaf refers to is not reserved, so it is the same in both
      have later := ih fun other member => free other (by simp [member])
      rw [List.flatMap_cons, List.flatMap_cons, later,
        readings_of_unreserved same (free leaf (by simp))]
  | add void _ ih =>
      rw [List.flatMap_cons, Value.readings_of_isVoid void, List.nil_append,
        ih fun other member => free other (by simp [member])]
  | remove void _ ih =>
      rw [List.flatMap_cons, Value.readings_of_isVoid void, List.nil_append, ih free]
  | resolve declared _ ih =>
      -- an upload is read as itself, whatever the parameters are
      rw [declaredUploads_eq, mapM_id_eq_ok_iff] at declared
      rw [List.flatMap_append, flatMap_readings_upload, List.flatMap_cons, declared,
        ih fun other member => free other (List.mem_append_right _ member)]

theorem Restates.files {before after : List Value}
    (restates : Restates dialect params before after) :
    after.filterMap Value.file? = before.filterMap Value.file? := by
  induction restates with
  | nil => rfl
  | keep leaf _ ih => simp only [List.filterMap_cons, ih]
  | add void _ ih => rw [List.filterMap_cons_none (Value.file?_of_isVoid void), ih]
  | remove void _ ih => rw [List.filterMap_cons_none (Value.file?_of_isVoid void), ih]
  | @resolve _ _ raw uploads _ _ ih =>
      have none : (uploads.map Value.upload).filterMap Value.file? = [] :=
        List.filterMap_eq_nil_iff.2 fun value member => by
          obtain ⟨upload, -, rfl⟩ := List.mem_map.1 member
          rfl
      rw [List.filterMap_append, none, List.nil_append, ih]
      rfl

end

/-! ## Extraction -/

/-- What uploads are read from shows in what is done with them only by the files there. -/
theorem ofUploads_of_readings {dialect : Dialect} {params others : Params} {uploads : List Upload}
    (read : params.readings dialect = uploads.map .ok)
    (readOthers : others.readings dialect = uploads.map .ok)
    (same : others.unreserved = params.unreserved)
    (files : others.reservedFiles = params.reservedFiles) :
    (Extraction.ofUploads others uploads).params = (Extraction.ofUploads params uploads).params ∧
      (Extraction.ofUploads others uploads).deletions =
        (Extraction.ofUploads params uploads).deletions := by
  by_cases empty : uploads = []
  · subst empty
    simp only [ofUploads_nil, same, and_self]
  · rw [ofUploads_of_ne_nil read empty, ofUploads_of_ne_nil readOthers empty, files]
    rw [Params.unreserved, Params.unreserved] at same
    simp only [Extraction.ofGathered, same, and_self]

theorem extractUploads_restated {σ τ : Type} {dialect : Dialect} {params others : Params}
    (same : others.unreserved = params.unreserved)
    (free : ∀ leaf ∈ others.reservedLeaves, leaf.refersToReserved dialect = false)
    (restates : Restates dialect params params.reservedLeaves others.reservedLeaves)
    (files : FileManager σ) (state : σ) (uploads : List Upload)
    (succeeds : (extractUploads dialect files params state).result = .ok uploads)
    (manager : FileManager τ) (start : τ) :
    let outcome := extractUploads dialect files params state
    let other := extractUploads dialect manager others start
    other.result = .ok uploads ∧ other.params = outcome.params ∧
      other.attempts = outcome.attempts := by
  have read := readings_of_result succeeds
  have readOthers : others.readings dialect = uploads.map .ok :=
    (restates.readings same free).trans read
  obtain ⟨left, deletions⟩ := ofUploads_of_readings read readOthers same restates.files
  rw [extractUploads_of_uploads read, extractUploads_of_uploads readOthers]
  exact ⟨rfl, left, deletions⟩

theorem extractUploads_restated_resolved :
    let file : StagedFile := ⟨"f", "/staging/1", none, none, none⟩
    let stray : StagedFile := ⟨"upload", "/staging/2", none, none, none⟩
    let spare : StagedFile := ⟨"h", "/staging/3", none, none, none⟩
    let uploads : List Upload := [⟨"a", .inline file⟩, ⟨"b", .inline file⟩, ⟨"c", .inline file⟩]
    let params := Params.collect
      [("UPLOAD", .text "a,param:f;b,param:f"), ("UPLOAD", .null), ("UPLOAD", .file stray),
        ("f", .file file), ("UPLOAD", .text "c,param:f"), ("h", .file spare)]
    let others := Params.collect
      [("upload", .list [.list [.upload ⟨"a", .inline file⟩], .upload ⟨"b", .inline file⟩]),
        ("f", .file file), ("Upload", .list [.text " ", .list [.file stray, .text "c,param:f"]]),
        ("h", .file spare)]
    let outcome := extractUploads .tap .keep params ()
    let other := extractUploads .tap .keep others ()
    others.unreserved = params.unreserved ∧
      (∀ leaf ∈ others.reservedLeaves, leaf.refersToReserved .tap = false) ∧
      Restates .tap params params.reservedLeaves others.reservedLeaves ∧
      outcome.result = .ok uploads ∧ outcome.attempts = [stray, spare] ∧
      other.result = .ok uploads ∧ other.params = outcome.params ∧
      other.attempts = outcome.attempts := by
  intro file stray spare uploads params others outcome other
  have same : others.unreserved = params.unreserved := by decide +kernel
  have free : ∀ leaf ∈ others.reservedLeaves, leaf.refersToReserved .tap = false := by
    decide +kernel
  have declared : declaredUploads .tap params "a,param:f;b,param:f" =
      .ok [⟨"a", .inline file⟩, ⟨"b", .inline file⟩] := by decide +kernel
  have restates : Restates .tap params params.reservedLeaves others.reservedLeaves := by
    have leaves : params.reservedLeaves =
        [.text "a,param:f;b,param:f", .null, .file stray, .text "c,param:f"] := by decide +kernel
    have otherLeaves : others.reservedLeaves =
        [⟨"a", .inline file⟩, ⟨"b", .inline file⟩].map .upload ++
          [.text " ", .file stray, .text "c,param:f"] := by decide +kernel
    have blank : Value.IsVoid (.text " ") := by
      change Blank.trim " ".toList = []
      decide
    rw [leaves, otherLeaves]
    exact .resolve declared (.remove trivial (.add blank (.keep _ (.keep _ .nil))))
  have succeeds : outcome.result = .ok uploads := by decide +kernel
  have attempted : outcome.attempts = [stray, spare] := by decide +kernel
  exact ⟨same, free, restates, succeeds, attempted,
    extractUploads_restated same free restates .keep () uploads succeeds .keep ()⟩

end RequestUploads
