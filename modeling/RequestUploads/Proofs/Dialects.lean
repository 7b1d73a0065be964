import RequestUploads.Proofs.Declaration.Division
import RequestUploads.Proofs.References
import RequestUploads.Proofs.Refusal

/-!
# The two dialects on one request

DALI takes a value as one declaration, so the dialects could only differ on a value that TAP
divides.  If all its pieces are declarations, the last one starts after a semicolon, and DALI
refuses such a value.  So a request that both dialects accept means the same in both
(`dialects_agree`).
-/

namespace RequestUploads
open Results

theorem isDeclaration_of_parse {declaration : String} {params : Params} {upload : Upload}
    (parses : Upload.parse declaration params = .ok upload) :
    Declaration.IsDeclaration declaration.toList := by
  obtain ⟨label, target, accepted, -⟩ := Upload.parse_eq_ok_iff.1 parses
  exact Declaration.isDeclaration_of_pair accepted

theorem declarations_of_readable {dialect : Dialect} {params : Params} {raw : String}
    (visible : Blank.trim raw.toList ≠ []) (readable : ¬Unreadable dialect params raw) :
    ∃ declarations, Declaration.split dialect raw = .ok declarations ∧
      ∀ declaration ∈ declarations, ∃ upload, Upload.parse declaration params = .ok upload := by
  cases division : Declaration.split dialect raw with
  | error refusal => exact absurd ⟨visible, .inl ⟨refusal, division⟩⟩ readable
  | ok declarations =>
      refine ⟨declarations, rfl, ?_⟩
      intro declaration member
      cases parses : Upload.parse declaration params with
      | ok upload => exact ⟨upload, rfl⟩
      | error refusal =>
          refine absurd ⟨visible, .inr ?_⟩ readable
          exact ⟨declarations, division, declaration, member, refusal, parses⟩

theorem readable_of_result {σ : Type} {dialect : Dialect} {files : FileManager σ} {params : Params}
    {state : σ} {uploads : List Upload}
    (succeeds : (extractUploads dialect files params state).result = .ok uploads) :
    ∀ raw, .text raw ∈ params.reservedLeaves → ¬Unreadable dialect params raw := by
  intro raw member unreadable
  obtain ⟨refusal, outcome⟩ := refused_iff.2 ⟨raw, member, unreadable⟩
  rw [extractUploads_result, outcome] at succeeds
  cases succeeds

theorem readings_text_agree {params : Params} {raw : String}
    (inDali : ¬Unreadable .dali params raw) (inTap : ¬Unreadable .tap params raw) :
    (Value.text raw).readings .tap params = (Value.text raw).readings .dali params := by
  simp only [Value.readings]
  split_ifs with blank
  · rfl
  · obtain ⟨pieces, dali, -⟩ := declarations_of_readable blank inDali
    obtain ⟨declarations, tap, parse⟩ := declarations_of_readable blank inTap
    have isDeclaration : ∀ piece ∈ declarations, Declaration.IsDeclaration piece.toList := by
      intro piece member
      obtain ⟨upload, parses⟩ := parse piece member
      exact isDeclaration_of_parse parses
    rw [dali, tap, Declaration.split_eq_of_both dali tap isDeclaration]

theorem readings_agree {params : Params}
    (inDali : ∀ raw, .text raw ∈ params.reservedLeaves → ¬Unreadable .dali params raw)
    (inTap : ∀ raw, .text raw ∈ params.reservedLeaves → ¬Unreadable .tap params raw) :
    params.readings .tap = params.readings .dali := by
  apply List.flatMap_congr
  intro leaf member
  cases leaf with
  | text raw => exact readings_text_agree (inDali raw member) (inTap raw member)
  | null | file _ | upload _ | list _ => rfl

theorem dialects_agree {σ τ : Type} (params : Params) (files : FileManager σ) (state : σ)
    (others : FileManager τ) (start : τ) (uploads found : List Upload)
    (dali : (extractUploads .dali files params state).result = .ok uploads)
    (tap : (extractUploads .tap others params start).result = .ok found) :
    found = uploads ∧
      (extractUploads .tap others params start).params =
        (extractUploads .dali files params state).params ∧
      (extractUploads .tap others params start).attempts =
        (extractUploads .dali files params state).attempts := by
  have same := readings_agree (readable_of_result dali) (readable_of_result tap)
  rw [extractUploads_result] at dali tap
  rw [same, dali, Except.ok.injEq] at tap
  subst tap
  have readDali := mapM_id_eq_ok_iff.1 dali
  rw [extractUploads_of_uploads readDali, extractUploads_of_uploads (same.trans readDali)]
  exact ⟨rfl, rfl, rfl⟩

theorem dialects_agree_on_semicolons :
    let file : StagedFile := ⟨"f;g", "/staging/f", none, none, none⟩
    let unused : StagedFile := ⟨"h", "/staging/h", none, none, none⟩
    let params : Params :=
      ⟨[("upload", .list [.text " ", .list [.text "a,param:f;g"]]), ("f;g", .file file),
        ("h", .file unused)]⟩
    let dali := extractUploads .dali .keep params ()
    let tap := extractUploads .tap .keep params ()
    dali.result = .ok [⟨"a", .inline file⟩] ∧ tap.result = .ok [⟨"a", .inline file⟩] ∧
      tap.params = dali.params ∧ tap.attempts = dali.attempts := by
  intro file unused params dali tap
  have inDali : dali.result = .ok [⟨"a", .inline file⟩] := by decide +kernel
  have inTap : tap.result = .ok [⟨"a", .inline file⟩] := by decide +kernel
  exact ⟨inDali, inTap, (dialects_agree params .keep () .keep () _ _ inDali inTap).2⟩

end RequestUploads
