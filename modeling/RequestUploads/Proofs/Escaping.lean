import RequestUploads.Proofs.Declaration.Joined
import RequestUploads.Proofs.Dialects
import RequestUploads.Proofs.Text.Percent
import RequestUploads.Proofs.Uri

/-!
# Declarations written with escapes

A URI may hold semicolons, commas and line feeds, and a declaration of it can still be joined to
others: it is enough that percent signs, semicolons and blanks are escaped after the scheme.  The
declarations are then read as these URIs, in order (`extractUploads_escaped`).

* A target with these escapes is visible throughout (`EscapedDeclaration.visible`), so nothing is
  trimmed from it, and the only semicolons of the joined text are those that join.
* The scheme is not escaped.  It is that of the URI, so neither the test for `param:` nor that for
  `file:` takes the target for something else.
-/

namespace RequestUploads
open Results

/-- The characters that are escaped in a target at least: percent signs, semicolons and blanks. -/
def Declaration.mustEscape (c : Char) : Bool := c = '%' || c = ';' || Blank.isBlank c

/-- A label for a remote URI, and a way to write what follows the scheme of the URI. -/
structure EscapedDeclaration where
  label : String
  scheme : List Char
  rest : List Char
  uri : Uri
  encoded : List Char
  isLabel : Declaration.IsLabel label.toList
  isScheme : Scheme.IsScheme scheme
  nonempty : rest ≠ []
  parses : Uri.parse (scheme ++ ':' :: rest) = .ok uri
  allowed : uri.scheme ∉ Upload.reservedSchemes
  encodes : Percent.Encodes Declaration.mustEscape rest encoded

namespace EscapedDeclaration

variable (item : EscapedDeclaration)

def target : List Char := item.scheme ++ ':' :: item.encoded

def text : List Char := item.label.toList ++ ',' :: item.target

def upload : Upload := ⟨item.label, .remote item.uri⟩

def joined (items : List EscapedDeclaration) : String :=
  String.ofList (Text.join ';' (items.map text))

theorem ofUri_uri : Upload.ofUri (some item.label) item.uri = .ok item.upload :=
  Upload.ofUri_ok_iff.2 ⟨item.allowed, rfl⟩

/-! ## The written target -/

theorem visible_of_free {c : Char} (free : Declaration.mustEscape c = false) :
    Blank.isBlank c = false ∧ c ≠ ';' := by
  simp only [Declaration.mustEscape, Bool.or_eq_false_iff, decide_eq_false_iff_not] at free
  exact ⟨free.2, free.1.2⟩

theorem free_of_mem_scheme {c : Char} (member : c ∈ item.scheme) :
    Declaration.mustEscape c = false := by
  have isChar := Scheme.isChar_of_mem item.isScheme c member
  have percent : c ≠ '%' := by
    rintro rfl
    cases isChar
  have semicolon : c ≠ ';' := by
    rintro rfl
    cases isChar
  simp [Declaration.mustEscape, Scheme.isBlank_of_isChar isChar, percent, semicolon]

theorem visible_encoded {c : Char} (member : c ∈ item.encoded) :
    Blank.isBlank c = false ∧ c ≠ ';' := by
  rcases item.encodes.mem member with plain | rfl | ⟨n, digit⟩
  · exact visible_of_free plain
  · decide
  · obtain ⟨low, high⟩ := Ascii.toNat_of_hexValue? digit
    refine ⟨Blank.isBlank_of_ascii low high, ?_⟩
    rintro rfl
    cases digit

theorem visible {c : Char} (member : c ∈ item.target) : Blank.isBlank c = false ∧ c ≠ ';' := by
  rcases List.mem_append.1 member with inScheme | later
  · exact visible_of_free (item.free_of_mem_scheme inScheme)
  · rcases List.mem_cons.1 later with rfl | inEncoded
    · decide
    · exact item.visible_encoded inEncoded

theorem encoded_ne_nil : item.encoded ≠ [] := item.encodes.ne_nil item.nonempty

theorem oneLine : '\n' ∉ item.encoded := by
  intro lineFeed
  cases (item.visible_encoded lineFeed).1

theorem isTarget : Declaration.IsTarget item.target :=
  Declaration.isTarget_iff.2
    ⟨item.scheme, item.encoded, item.isScheme, item.encoded_ne_nil, item.oneLine, rfl⟩

theorem isDeclaration : Declaration.IsDeclaration item.text :=
  ⟨item.label.toList, item.target, item.isLabel, item.isTarget, rfl⟩

theorem free : ';' ∉ item.text := by
  have inLabel : ';' ∉ item.label.toList := item.isLabel.not_mem (by decide) (by decide)
  have inTarget : ';' ∉ item.target := fun member => (item.visible member).2 rfl
  simp [text, inLabel, inTarget]

theorem decode_target : Percent.decode item.target = item.scheme ++ ':' :: item.rest := by
  have colon : Declaration.mustEscape ':' = false := by decide
  have encodes := (item.encodes.plain colon).after fun c => item.free_of_mem_scheme
  exact Percent.decode_of_encodes (by decide) encodes

/-! ## The scheme -/

theorem scheme_uri : item.uri.scheme.toList = Ascii.lower item.scheme :=
  Uri.scheme_of_parse item.isScheme item.parses

theorem lower_scheme_ne (name : String) (reserved : name ∈ Upload.reservedSchemes) :
    Ascii.lower item.scheme ≠ name.toList := by
  intro same
  rw [← item.scheme_uri, String.toList_inj] at same
  exact item.allowed (same ▸ reserved)

theorem not_reference : Ascii.dropIgnoringCase? paramMarker item.target = none := by
  have freeScheme : ':' ∉ item.scheme :=
    Declaration.not_mem_scheme item.isScheme Scheme.not_isChar_colon
  have freeName : ':' ∉ "param".toList := by decide
  have differ := item.lower_scheme_ne "param" (by decide)
  exact Ascii.dropIgnoringCase?_eq_none_of_lower_ne freeName freeScheme differ _

theorem not_file : Ascii.sameIgnoringCase item.scheme "file".toList = false := by
  rw [← Bool.not_eq_true, Ascii.sameIgnoringCase_iff]
  exact item.lower_scheme_ne "file" (by decide)

/-! ## Reading -/

theorem resolveUri_target :
    Upload.resolveUri (some item.label) (String.ofList item.target) = .ok item.upload := by
  have trimmed : Blank.trim item.target = item.target :=
    Blank.trim_of_free fun c member => (item.visible member).1
  have divided : Scheme.split? item.target = some (item.scheme, item.encoded) :=
    Scheme.split?_eq_some_iff.2 ⟨item.isScheme, rfl⟩
  simp only [Upload.resolveUri, String.toList_ofList, trimmed, divided, item.encoded_ne_nil,
    item.oneLine, item.not_file, item.decode_target, item.parses, item.ofUri_uri, or_self,
    Bool.false_eq_true, if_false]

theorem parse_text (params : Params) :
    Upload.parse (String.ofList item.text) params = .ok item.upload := by
  refine Upload.parse_eq_ok_iff.2 ⟨item.label, String.ofList item.target, ?_, ?_⟩
  · rw [Declaration.pair_eq_ok_iff, String.toList_ofList, String.toList_ofList]
    exact ⟨item.isLabel, item.isTarget, rfl⟩
  · rw [Upload.resolve, String.toList_ofList, item.not_reference]
    exact item.resolveUri_target

theorem readings_joined {items : List EscapedDeclaration} (nonempty : items ≠ [])
    (params : Params) :
    (Value.text (joined items)).readings .tap params = items.map fun item => .ok item.upload := by
  have texts : items.map text ≠ [] := by simpa using nonempty
  have declarations : ∀ piece ∈ items.map text, Declaration.IsDeclaration piece :=
    List.forall_mem_map.2 fun item _ => item.isDeclaration
  have free : ∀ piece ∈ items.map text, ';' ∉ piece :=
    List.forall_mem_map.2 fun item _ => item.free
  have divided : Declaration.split .tap (joined items) = .ok ((items.map text).map String.ofList) :=
    Declaration.split_join texts declarations free
  have comma : ',' ∈ (joined items).toList := by
    obtain ⟨first, later, rfl⟩ := List.exists_cons_of_ne_nil nonempty
    simp [joined, Text.join_cons, text]
  have notBlank := Blank.trim_ne_nil comma (by decide)
  simp only [Value.readings, if_neg notBlank, divided, List.map_map]
  exact List.map_congr_left fun item _ => item.parse_text params

end EscapedDeclaration

theorem extractUploads_escaped {σ : Type} (items : List EscapedDeclaration) (nonempty : items ≠ [])
    (params : Params)
    (submitted : params.reservedValues = [.text (EscapedDeclaration.joined items)])
    (files : FileManager σ) (state : σ) :
    ∃ uploads, (extractUploads .tap files params state).result = .ok uploads ∧
      uploads.map .ok = items.map fun item => Upload.ofUri (some item.label) item.uri := by
  have read : params.readings .tap = (items.map EscapedDeclaration.upload).map .ok := by
    have leaves : params.reservedLeaves = [.text (EscapedDeclaration.joined items)] := by
      rw [Params.reservedLeaves, submitted]
      rfl
    rw [Params.readings, leaves, List.flatMap_singleton, List.map_map]
    exact EscapedDeclaration.readings_joined nonempty params
  refine ⟨items.map EscapedDeclaration.upload, ?_, ?_⟩
  · rw [extractUploads_result, mapM_id_eq_ok_iff.2 read]
  · rw [List.map_map]
    exact List.map_congr_left fun item _ => item.ofUri_uri.symm

theorem extractUploads_escaped_pair :
    let record : Uri :=
      ⟨"ivo", some ⟨"", "", .name "x", none⟩, .segments ["y;k,v%3B%20%C2%A0z"], none, none⟩
    let semicolon : Uri := ⟨"urn", none, .rootless ";", none, none⟩
    let params : Params := ⟨[("LANG", .text "ADQL"),
      ("upload", .text "a,ivo://x/y%3Bk,v%253B%20%C2%A0%0Az;b_2,URN:%3b")]⟩
    Uri.parse "ivo://x/y;k,v%3B \u00a0\nz".toList = .ok record ∧
      Uri.parse "URN:;".toList = .ok semicolon ∧
      ∃ uploads, (extractUploads .tap .keep params ()).result = .ok uploads ∧
        uploads.map .ok =
          [Upload.ofUri (some "a") record, Upload.ofUri (some "b_2") semicolon] := by
  intro record semicolon params
  let first : EscapedDeclaration := {
    label := "a"
    scheme := "ivo".toList
    rest := "//x/y;k,v%3B \u00a0\nz".toList
    uri := record
    encoded := Percent.encode Declaration.mustEscape "//x/y;k,v%3B \u00a0\nz".toList
    isLabel := by decide
    isScheme := by decide
    nonempty := by decide
    parses := by decide +kernel
    allowed := by decide
    encodes := Percent.encodes_encode (fun _ must => must) _ }
  let second : EscapedDeclaration := {
    label := "b_2"
    scheme := "URN".toList
    rest := [';']
    uri := semicolon
    encoded := ['%', '3', 'b']
    isLabel := by decide
    isScheme := by decide
    nonempty := by decide
    parses := by decide +kernel
    allowed := by decide
    encodes :=
      have digits : Percent.Escapes (Utf8.encodeChar ';') ['%', '3', 'b'] :=
        .cons (by decide) (by decide) .nil
      .escaped digits .nil }
  have submitted : params.reservedValues = [.text (EscapedDeclaration.joined [first, second])] := by
    decide +kernel
  exact ⟨first.parses, second.parses,
    extractUploads_escaped [first, second] (by simp) params submitted .keep ()⟩

end RequestUploads
