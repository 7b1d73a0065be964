import RequestUploads.Proofs.Declaration.Grammar

/-!
# Division at semicolons

TAP divides a text at its rightmost semicolon with the shape of a declaration on both sides, and
goes on with what stands before it (`Divided`).  There is one such division, and it is what TAP
finds (`tapPieces_eq_iff`).  It is accepted if its pieces have the shape (`split_tap_eq_ok_iff`),
and they all have it as soon as there are several (`Divided.shaped`).  Two facts about pieces that
are declarations carry over to the dialects:

* such a piece is divided no further on its own (`Divided.whole_of_mem`).  A semicolon in it with
  shapes on both sides would have been the rightmost one of the longer text, since a declaration
  has no line feed that could spoil the shape of what stands before.
* it is not refused in DALI either (`split_of_whole`): DALI refuses a semicolon before the start of
  a declaration, and there the text would be divided.
-/

namespace RequestUploads.Declaration

/-- No semicolon of the text has the shape of a declaration on both sides. -/
def Whole (s : List Char) : Prop :=
  ∀ front rest, s = front ++ ';' :: rest → ¬(Shaped front ∧ Shaped rest)

/-- A text and its pieces, the last of which follows the rightmost semicolon with the shape of a
declaration on both sides. -/
inductive Divided : List Char → List (List Char) → Prop
  | whole {s : List Char} : Whole s → Divided s [s]
  | last {front piece : List Char} {pieces : List (List Char)} : Shaped front → Shaped piece →
      (∀ x y, piece = x ++ ';' :: y → ¬(Shaped (front ++ ';' :: x) ∧ Shaped y)) →
      Divided front pieces → Divided (front ++ ';' :: piece) (pieces ++ [piece])

/-! ## The pieces of TAP -/

theorem divided_divide (before piece : List Char) (later : List (List Char))
    (passed : ∀ x y, piece = x ++ ';' :: y → ¬(Shaped (before.reverse ++ x) ∧ Shaped y)) :
    ∃ pieces, divide before piece later = pieces ++ later ∧
      Divided (before.reverse ++ piece) pieces := by
  -- Induction on what is still to be divided; nothing divides the piece that has been passed.
  induction before generalizing piece later with
  | nil => exact ⟨[piece], rfl, .whole passed⟩
  | cons c before ih =>
      by_cases divides : c = ';' ∧ Shaped piece ∧ Shaped before.reverse
      · obtain ⟨rfl, shapedPiece, shapedFront⟩ := divides
        obtain ⟨pieces, eq, divided⟩ := ih [] (piece :: later) (by simp)
        refine ⟨pieces ++ [piece], ?_, ?_⟩
        · rw [divide, if_pos ⟨rfl, shapedPiece, shapedFront⟩, eq]
          simp
        · rw [List.append_nil] at divided
          simp only [List.reverse_cons, List.append_assoc, List.singleton_append] at passed ⊢
          exact .last shapedFront shapedPiece passed divided
      · rw [divide, if_neg divides]
        have passedMore : ∀ x y, c :: piece = x ++ ';' :: y →
            ¬(Shaped (before.reverse ++ x) ∧ Shaped y) := by
          rintro x y eq ⟨shapedFront, shapedRest⟩
          cases x with
          | nil =>
              obtain ⟨rfl, rfl⟩ := List.cons.inj eq
              rw [List.append_nil] at shapedFront
              exact divides ⟨rfl, shapedRest, shapedFront⟩
          | cons d x =>
              obtain ⟨rfl, rfl⟩ := List.cons.inj eq
              exact passed x y rfl ⟨by simpa using shapedFront, shapedRest⟩
        obtain ⟨pieces, eq, divided⟩ := ih (c :: piece) later passedMore
        exact ⟨pieces, eq, by simpa using divided⟩

theorem divided_tapPieces (s : List Char) : Divided s (tapPieces s) := by
  obtain ⟨pieces, eq, divided⟩ := divided_divide s.reverse [] [] (by simp)
  rw [tapPieces, eq, List.append_nil]
  simpa using divided

/-- There is only one rightmost semicolon, and so only one division. -/
theorem Divided.unique {s : List Char} {pieces others : List (List Char)}
    (divided : Divided s pieces) (again : Divided s others) : pieces = others := by
  induction divided generalizing others with
  | whole whole =>
      cases again with
      | whole _ => rfl
      | last shapedFront shapedPiece _ _ =>
          exact absurd ⟨shapedFront, shapedPiece⟩ (whole _ _ rfl)
  | @last front piece pieces shapedFront shapedPiece rightmost _ ih =>
      generalize eq : front ++ ';' :: piece = s at again
      cases again with
      | whole whole => exact absurd ⟨shapedFront, shapedPiece⟩ (whole _ _ eq.symm)
      | last otherFront otherPiece otherRightmost earlier =>
          rcases Text.same_or_later eq with ⟨rfl, rfl⟩ | ⟨x, rfl, rfl⟩ | ⟨x, rfl, rfl⟩
          · rw [ih earlier]
          · exact absurd ⟨otherFront, otherPiece⟩ (rightmost x _ rfl)
          · exact absurd ⟨shapedFront, shapedPiece⟩ (otherRightmost x _ rfl)

theorem Divided.shaped {s : List Char} {pieces : List (List Char)} (divided : Divided s pieces)
    (divisible : Shaped s ∨ ¬Whole s) : ∀ piece ∈ pieces, Shaped piece := by
  induction divided with
  | whole whole =>
      intro piece member
      rw [List.mem_singleton.1 member]
      exact divisible.resolve_right (not_not_intro whole)
  | last shapedFront shapedPiece _ _ ih =>
      intro piece member
      rcases List.mem_append.1 member with earlier | atEnd
      · exact ih (.inl shapedFront) piece earlier
      · rwa [List.mem_singleton.1 atEnd]

theorem Divided.shaped_first_iff {s first : List Char} {later : List (List Char)}
    (divided : Divided s (first :: later)) : Shaped first ↔ Shaped s ∨ ¬Whole s := by
  refine ⟨fun shaped => ?_, fun divisible => divided.shaped divisible first (by simp)⟩
  generalize eq : first :: later = pieces at divided
  cases divided with
  | whole _ =>
      obtain ⟨rfl, -⟩ := List.cons.inj eq
      exact .inl shaped
  | last shapedFront shapedPiece _ _ =>
      exact .inr fun whole => whole _ _ rfl ⟨shapedFront, shapedPiece⟩

theorem tapPieces_eq_iff {s : List Char} {pieces : List (List Char)} :
    tapPieces s = pieces ↔ Divided s pieces :=
  ⟨fun eq => eq ▸ divided_tapPieces s, (divided_tapPieces s).unique⟩

theorem exists_divided (s : List Char) : ∃ first later, Divided s (first :: later) := by
  obtain ⟨first, later, found⟩ := List.exists_cons_of_ne_nil (divide_ne_nil s.reverse [] [])
  exact ⟨first, later, tapPieces_eq_iff.1 found⟩

theorem split_tap {raw : String} {first : List Char} {later : List (List Char)}
    (divided : Divided raw.toList (first :: later)) :
    split .tap raw =
      if Shaped first then .ok ((first :: later).map String.ofList)
      else .error (.malformed raw .noDeclaration) := by
  simp only [split, tapPieces_eq_iff.2 divided]

theorem split_tap_eq_ok_iff {raw : String} {pieces : List String} :
    split .tap raw = .ok pieces ↔
      Divided raw.toList (pieces.map String.toList) ∧ ∀ piece ∈ pieces, Shaped piece.toList := by
  obtain ⟨first, later, divided⟩ := exists_divided raw.toList
  rw [split_tap divided]
  constructor
  · intro divides
    split_ifs at divides with shaped
    obtain rfl := Except.ok.inj divides
    have same : ((first :: later).map String.ofList).map String.toList = first :: later := by
      simp [Function.comp_def]
    refine ⟨same.symm ▸ divided, List.forall_mem_map.2 fun piece member => ?_⟩
    rw [String.toList_ofList]
    exact divided.shaped (divided.shaped_first_iff.1 shaped) piece member
  · rintro ⟨again, shaped⟩
    have same := divided.unique again
    have shapes : ∀ piece ∈ pieces.map String.toList, Shaped piece := List.forall_mem_map.2 shaped
    rw [← same] at shapes
    rw [if_pos (shapes first (by simp)), same]
    simp [Function.comp_def]

theorem split_tap_eq_error_iff {raw : String} {refusal : UploadError} :
    split .tap raw = .error refusal ↔
      refusal = .malformed raw .noDeclaration ∧ ¬Shaped raw.toList ∧ Whole raw.toList := by
  obtain ⟨first, later, divided⟩ := exists_divided raw.toList
  have refused : ¬Shaped first ↔ ¬Shaped raw.toList ∧ Whole raw.toList := by
    rw [divided.shaped_first_iff, not_or, not_not]
  rw [split_tap divided, ← refused]
  split_ifs with shaped <;> simp [shaped, eq_comm]

theorem divided_of_split {raw : String} {declarations : List String}
    (divides : split .tap raw = .ok declarations) :
    Divided raw.toList (declarations.map String.toList) :=
  (split_tap_eq_ok_iff.1 divides).1

/-! ## Pieces that are declarations -/

namespace Divided

variable {s : List Char} {pieces : List (List Char)}

theorem eq_singleton_or (divided : Divided s pieces) :
    pieces = [s] ∨ ∃ front, ∃ piece ∈ pieces, s = front ++ ';' :: piece := by
  cases divided with
  | whole _ => exact .inl rfl
  | last _ _ _ _ => exact .inr ⟨_, _, by simp, rfl⟩

theorem whole_of_mem (divided : Divided s pieces) :
    ∀ piece ∈ pieces, IsDeclaration piece → Whole piece := by
  induction divided with
  | whole whole =>
      intro piece member _
      rw [List.mem_singleton.1 member]
      exact whole
  | @last front last pieces shapedFront _ rightmost _ ih =>
      intro piece member declaration
      rcases List.mem_append.1 member with earlier | atEnd
      · exact ih piece earlier declaration
      · obtain rfl := List.mem_singleton.1 atEnd
        rintro x y rfl ⟨-, shapedRest⟩
        have oneLine : '\n' ∉ ';' :: x := by
          intro lineFeed
          rcases List.mem_cons.1 lineFeed with bad | inside
          · cases bad
          · exact declaration.oneLine (by simp [inside])
        exact rightmost x y rfl ⟨shapedFront.append oneLine, shapedRest⟩

end Divided

/-- In a declaration, what stands before a semicolon has the shape of one: the semicolon comes
after the scheme of the target. -/
theorem IsDeclaration.shaped_before {s front rest : List Char} (declaration : IsDeclaration s)
    (eq : s = front ++ ';' :: rest) : Shaped front := by
  obtain ⟨label, target, isLabel, isTarget, rfl⟩ := declaration
  obtain ⟨scheme, path, isScheme, -, -, rfl⟩ := isTarget_iff.1 isTarget
  have oneLine := isTarget.oneLine
  have noSemicolon : ';' ∉ label ++ ',' :: (scheme ++ [':']) := by
    have inLabel : ';' ∉ label := isLabel.not_mem (by decide) (by decide)
    have inScheme : ';' ∉ scheme := not_mem_scheme isScheme (by decide)
    simp [inLabel, inScheme]
  have placed : (label ++ ',' :: (scheme ++ [':'])) ++ path = front ++ ';' :: rest := by
    rw [← eq]
    simp
  obtain ⟨begun, rfl, rfl⟩ := Text.exists_of_free_append noSemicolon placed
  refine shaped_iff.2 ⟨label, scheme ++ ':' :: begun, isLabel.ne_nil,
    isLabel.not_mem (by decide) (by decide), by simp, ?_, by simp⟩
  intro lineFeed
  apply oneLine
  simp only [List.mem_append, List.mem_cons] at lineFeed ⊢
  tauto

theorem IsDeclaration.divides {s front rest : List Char} (declaration : IsDeclaration s)
    (eq : s = front ++ ';' :: rest) (starts : StartsDeclaration rest) :
    Shaped front ∧ Shaped rest := by
  refine ⟨declaration.shaped_before eq, starts.shaped fun lineFeed => declaration.oneLine ?_⟩
  simp [eq, lineFeed]

theorem not_joins_of_whole {s : List Char} (whole : Whole s) (declaration : IsDeclaration s) :
    joinsDeclarations s = false := by
  rw [← Bool.not_eq_true]
  intro joins
  obtain ⟨front, rest, eq, starts⟩ := joinsDeclarations_iff.1 joins
  exact whole front rest eq (declaration.divides eq starts)

theorem split_of_whole {declaration : String} (dialect : Dialect) (whole : Whole declaration.toList)
    (isDeclaration : IsDeclaration declaration.toList) :
    split dialect declaration = .ok [declaration] := by
  cases dialect with
  | tap => simp [split_tap (.whole whole), isDeclaration.shaped]
  | dali => simp [split, not_joins_of_whole whole isDeclaration, isDeclaration.shaped]

/-! ## Both dialects -/

theorem split_eq_of_both {raw : String} {pieces inTap : List String}
    (dali : split .dali raw = .ok pieces) (tap : split .tap raw = .ok inTap)
    (declarations : ∀ piece ∈ inTap, IsDeclaration piece.toList) : inTap = pieces := by
  obtain ⟨notJoined, rfl⟩ : joinsDeclarations raw.toList = false ∧ [raw] = pieces := by
    simp only [split] at dali
    split_ifs at dali with joins shaped
    exact ⟨by simpa using joins, Except.ok.inj dali⟩
  rcases (divided_of_split tap).eq_singleton_or with one | ⟨front, piece, member, eq⟩
  · obtain ⟨found, rfl, same⟩ := List.map_eq_singleton_iff.1 one
    rw [String.toList_inj.1 same]
  · obtain ⟨last, lastMember, rfl⟩ := List.mem_map.1 member
    have joins := joinsDeclarations_iff.2 ⟨front, _, eq, (declarations last lastMember).starts⟩
    rw [notJoined] at joins
    cases joins

end RequestUploads.Declaration
