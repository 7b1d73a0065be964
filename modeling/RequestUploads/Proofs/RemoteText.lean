import RequestUploads.Proofs.Targets
import RequestUploads.Proofs.Uri.Text

/-!
# Remote uploads and their declarations

The text of a remote upload is a declaration, but not always one of the same upload: escapes in the
URI are read once more.  It is read as the upload exactly if the text of the URI, with its escapes
read, is read as the URI again, and whatever it is read as has the label and the scheme of the
upload (`Upload.parse_text_of_remote`).  Where the text has no escapes, this comes down to what is
expected of any URI in normal form, that its text is read as the URI.
-/

namespace RequestUploads

namespace Uri
variable {written : List Char} {uri : Uri}

theorem not_refersTo_text (parsed : Uri.parse written = .ok uri)
    (allowed : uri.scheme ∉ Upload.reservedSchemes) (name : List Char) :
    ¬RefersTo uri.text.toList name := by
  have small : Ascii.lower "param".toList = "param".toList := by decide
  have differ : Ascii.lower uri.scheme.toList ≠ Ascii.lower "param".toList := by
    rw [lower_scheme_of_parse parsed, small, Ne, String.toList_inj]
    exact fun same => allowed (by simp [same, Upload.reservedSchemes])
  have freeScheme : ':' ∉ uri.scheme.toList :=
    Declaration.not_mem_scheme (isScheme_of_parse parsed) Scheme.not_isChar_colon
  have dropped := Ascii.dropIgnoringCase?_eq_none_of_lower_ne (by decide) freeScheme differ uri.rest
  rw [← dropIgnoringCase?_eq_some_iff, toList_text]
  intro refers
  cases dropped.symm.trans refers

end Uri

namespace Upload

section
variable {written : List Char} {uri : Uri} (parsed : Uri.parse written = .ok uri)

include parsed

theorem parse_declaration_of_uri (allowed : uri.scheme ∉ reservedSchemes) {label : String}
    (isLabel : Declaration.IsLabel label.toList) (nonempty : uri.rest ≠ []) (params : Params) :
    Upload.parse (label ++ "," ++ uri.text) params = resolveUri (some label) uri.text := by
  have accepted : Declaration.pair (label ++ "," ++ uri.text) = .ok (label, uri.text) := by
    rw [Declaration.pair_eq_ok_iff, Declaration.isTarget_iff]
    exact ⟨isLabel, ⟨uri.scheme.toList, uri.rest, Uri.isScheme_of_parse parsed, nonempty,
      (Uri.isLine_rest parsed).oneLine, uri.toList_text⟩, by simp⟩
  rw [Upload.parse, accepted, Results.ok_bind]
  dsimp only
  rw [resolve_of_other (Uri.not_refersTo_text parsed allowed)]

/-- Either the text of the URI is not read again, or it is read as a URI of the same scheme. -/
theorem resolveUri_text_cases (allowed : uri.scheme ∉ reservedSchemes) (label : String)
    (nonempty : uri.rest ≠ []) :
    ((∀ again, Uri.parse (Percent.decode uri.text.toList) ≠ .ok again) ∧
      ∃ input fault, resolveUri (some label) uri.text = .error (.malformed input fault)) ∨
    ∃ again, Uri.parse (Percent.decode uri.text.toList) = .ok again ∧ again.scheme = uri.scheme ∧
      resolveUri (some label) uri.text = .ok ⟨label, .remote again⟩ := by
  have trimmed := Uri.trim_text parsed
  have small := Uri.lower_scheme_of_parse parsed
  have isScheme := Uri.isScheme_of_parse parsed
  have oneLine : '\n' ∉ uri.rest := (Uri.isLine_rest parsed).oneLine
  have divided := trimmed.trans uri.toList_text
  rcases resolveUri_cases divided isScheme nonempty oneLine (some label) with
    ⟨isFile, -⟩ | ⟨-, unread, refused⟩ | ⟨-, again, reads, scheme, resolves⟩
  · rw [small, String.toList_inj] at isFile
    exact absurd (by simp [isFile, reservedSchemes]) allowed
  · rw [readUri, trimmed] at unread
    exact .inl ⟨unread, refused⟩
  · rw [readUri, trimmed] at reads
    rw [small, String.toList_inj] at scheme
    rw [← scheme] at allowed
    exact .inr ⟨again, reads, scheme, resolves.trans (ofUri_ok_iff.2 ⟨allowed, rfl⟩)⟩

theorem parse_text_of_remote {label : Option String} {upload : Upload}
    (made : ofUri label uri = .ok upload) (isLabel : Declaration.IsLabel upload.label.toList)
    (nonempty : uri.rest ≠ []) (params : Params) :
    (Upload.parse upload.text params = .ok upload ↔
      Uri.parse (Percent.decode uri.text.toList) = .ok uri) ∧
    (Uri.parse uri.text.toList = .ok uri → ¬Percent.HasEscape uri.text.toList →
      Upload.parse upload.text params = .ok upload) ∧
    ∀ again, Upload.parse upload.text params = .ok again →
      again.label = upload.label ∧
      ∃ found, again.source = .remote found ∧ found.scheme = uri.scheme := by
  obtain ⟨allowed, rfl⟩ := ofUri_ok_iff.1 made
  have reparsed := parse_declaration_of_uri parsed allowed isLabel nonempty params
  have exactly : Upload.parse (text ⟨label.getD uri.text, .remote uri⟩) params =
      .ok ⟨label.getD uri.text, .remote uri⟩ ↔
        Uri.parse (Percent.decode uri.text.toList) = .ok uri := by
    rw [text, targetText, reparsed]
    rcases resolveUri_text_cases parsed allowed (label.getD uri.text) nonempty with
      ⟨unread, input, fault, refused⟩ | ⟨again, reads, -, resolves⟩
    · simp [refused, unread]
    · simp [resolves, reads]
  refine ⟨exactly, ?_, ?_⟩
  · intro stable plain
    rw [exactly, Percent.decode_of_not_hasEscape plain]
    exact stable
  · intro again reads
    rw [text, targetText, reparsed] at reads
    rcases resolveUri_text_cases parsed allowed (label.getD uri.text) nonempty with
      ⟨-, input, fault, refused⟩ | ⟨found, -, scheme, resolves⟩
    · rw [refused] at reads
      cases reads
    · obtain rfl := Except.ok.inj (resolves.symm.trans reads)
      exact ⟨rfl, found, rfl, scheme⟩

end

theorem parse_text_of_remote_escaped :
    let moved : Uri :=
      ⟨"http", some ⟨"", "", .name "example.com", none⟩, .segments ["x%41"], none, none⟩
    let kept : Uri := ⟨"urn", none, .rootless "a, b", some "c%20d", none⟩
    let plain : Uri := ⟨"ivo", some ⟨"", "", .name "x", none⟩, .segments ["y;z"], none, some ""⟩
    let params : Params := ⟨[("f", .text "a")]⟩
    Uri.parse " HTTP://example.com/x%41".toList = .ok moved ∧
      Upload.parse (text ⟨"a", .remote moved⟩) params ≠ .ok ⟨"a", .remote moved⟩ ∧
      Uri.parse "urn:a, b?c d ".toList = .ok kept ∧
      Upload.parse (text ⟨"b_2", .remote kept⟩) params = .ok ⟨"b_2", .remote kept⟩ ∧
      Uri.parse "ivo://x/y;z#".toList = .ok plain ∧
      Upload.parse (text ⟨"c", .remote plain⟩) params = .ok ⟨"c", .remote plain⟩ := by
  intro moved kept plain params
  have parsesMoved : Uri.parse " HTTP://example.com/x%41".toList = .ok moved := by decide +kernel
  have parsesKept : Uri.parse "urn:a, b?c d ".toList = .ok kept := by decide +kernel
  have parsesPlain : Uri.parse "ivo://x/y;z#".toList = .ok plain := by decide +kernel
  have makesMoved : ofUri (some "a") moved = .ok ⟨"a", .remote moved⟩ := by decide
  have makesKept : ofUri (some "b_2") kept = .ok ⟨"b_2", .remote kept⟩ := by decide
  have makesPlain : ofUri (some "c") plain = .ok ⟨"c", .remote plain⟩ := by decide
  have movesAway : Uri.parse (Percent.decode moved.text.toList) ≠ .ok moved := by decide +kernel
  have comesBack : Uri.parse (Percent.decode kept.text.toList) = .ok kept := by decide +kernel
  have stable : Uri.parse plain.text.toList = .ok plain := by decide +kernel
  have noEscape : ¬Percent.HasEscape plain.text.toList := fun escaped =>
    absurd escaped.mem (by decide +kernel)
  obtain ⟨ofMoved, -, -⟩ :=
    parse_text_of_remote parsesMoved makesMoved (by decide) (by decide) params
  obtain ⟨ofKept, -, -⟩ := parse_text_of_remote parsesKept makesKept (by decide) (by decide) params
  obtain ⟨-, ofPlain, -⟩ :=
    parse_text_of_remote parsesPlain makesPlain (by decide) (by decide) params
  exact ⟨parsesMoved, fun same => movesAway (ofMoved.1 same), parsesKept, ofKept.2 comesBack,
    parsesPlain, ofPlain stable noEscape⟩

end Upload

end RequestUploads
