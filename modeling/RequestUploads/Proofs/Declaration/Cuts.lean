import RequestUploads.Proofs.Declaration.Division

/-!
# What TAP makes of a value

A semicolon cuts a text if what stands before it and what stands after it have the shape of a
declaration (`IsCut`).  A value that has neither this shape nor a cut is refused, and the refusal
carries it as it is.  Any other value is divided, and `TapDivision` says into what: the pieces have
the shape and join to the value, the first of them has no cut, and each other one follows the
rightmost cut of the text that ends with it (`split_tap_iff`).

`TapDivision` speaks of all cuts of joined pieces, `Divided` of one division after the other from
the right.  They are the same (`tapDivision_iff`), and so no two lists of pieces fit one value.
-/

namespace RequestUploads.Declaration

/-! ## Cuts -/

def HasShape (s : List Char) : Prop :=
  ∃ label target, label ≠ [] ∧ ',' ∉ label ∧ target ≠ [] ∧ '\n' ∉ target ∧
    s = label ++ ',' :: target

/-- A semicolon of the text, between `front` and `rest`, that has the shape on both sides. -/
def IsCut (s front rest : List Char) : Prop :=
  s = front ++ ';' :: rest ∧ HasShape front ∧ HasShape rest

def IsLastCut (s front rest : List Char) : Prop :=
  IsCut s front rest ∧ ∀ other later, IsCut s other later → other.length ≤ front.length

theorem hasShape_iff {s : List Char} : HasShape s ↔ Shaped s := shaped_iff.symm

theorem isCut_iff {s front rest : List Char} :
    IsCut s front rest ↔ s = front ++ ';' :: rest ∧ Shaped front ∧ Shaped rest := by
  simp only [IsCut, hasShape_iff]

theorem whole_iff {s : List Char} : Whole s ↔ ∀ front rest, ¬IsCut s front rest := by
  simp only [Whole, isCut_iff, not_and]

theorem isLastCut_iff {front rest : List Char} :
    IsLastCut (front ++ ';' :: rest) front rest ↔
      Shaped front ∧ Shaped rest ∧
        ∀ x y, rest = x ++ ';' :: y → ¬(Shaped (front ++ ';' :: x) ∧ Shaped y) := by
  simp only [IsLastCut, isCut_iff, true_and]
  constructor
  · rintro ⟨⟨shapedFront, shapedRest⟩, rightmost⟩
    refine ⟨shapedFront, shapedRest, ?_⟩
    rintro x y rfl ⟨shapedLonger, shapedLater⟩
    have bound := rightmost (front ++ ';' :: x) y ⟨by simp, shapedLonger, shapedLater⟩
    rw [List.length_append, List.length_cons] at bound
    omega
  · rintro ⟨shapedFront, shapedRest, rightmost⟩
    refine ⟨⟨shapedFront, shapedRest⟩, ?_⟩
    rintro other later ⟨eq, shapedOther, shapedLater⟩
    rcases Text.same_or_later eq with ⟨rfl, -⟩ | ⟨x, rfl, rfl⟩ | ⟨x, rfl, -⟩
    · exact le_rfl
    · exact absurd ⟨shapedOther, shapedLater⟩ (rightmost x later rfl)
    · simp

/-! ## Divisions by all cuts -/

/-- A text and what TAP divides it into. -/
structure TapDivision (s : List Char) (pieces : List (List Char)) : Prop where
  nonempty : pieces ≠ []
  shaped : ∀ piece ∈ pieces, HasShape piece
  joined : Text.join ';' pieces = s
  lastCut : ∀ before piece after, pieces = before ++ piece :: after → before ≠ [] →
    IsLastCut (Text.join ';' (before ++ [piece])) (Text.join ';' before) piece
  uncut : ∀ first later, pieces = first :: later → ∀ front rest, ¬IsCut first front rest

theorem last_or_earlier {pieces before after : List (List Char)} {last piece : List Char}
    (eq : pieces ++ [last] = before ++ piece :: after) :
    (pieces = before ∧ last = piece) ∨ ∃ rest, pieces = before ++ piece :: rest := by
  rcases List.eq_nil_or_concat after with rfl | ⟨rest, final, rfl⟩
  · obtain ⟨front, atEnd⟩ := List.append_inj' eq rfl
    exact .inl ⟨front, List.singleton_inj.1 atEnd⟩
  · rw [List.concat_eq_append, ← List.cons_append, ← List.append_assoc] at eq
    exact .inr ⟨rest, (List.append_inj' eq rfl).1⟩

theorem Divided.tapDivision {s : List Char} {pieces : List (List Char)} (divided : Divided s pieces)
    (shaped : ∀ piece ∈ pieces, Shaped piece) : TapDivision s pieces := by
  induction divided with
  | @whole s whole =>
      refine ⟨by simp, fun piece member => hasShape_iff.2 (shaped piece member), rfl, ?_, ?_⟩
      · intro before piece after eq several
        exact absurd (List.singleton_eq_append_iff.1 eq) (by simp [several])
      · intro first later eq
        obtain ⟨rfl, -⟩ := List.cons.inj eq
        exact whole_iff.1 whole
  | @last front piece pieces shapedFront shapedPiece rightmost _ ih =>
      have earlier := ih fun other member => shaped other (by simp [member])
      have joined : Text.join ';' (pieces ++ [piece]) = front ++ ';' :: piece := by
        rw [Text.join_concat earlier.nonempty, earlier.joined]
      refine ⟨by simp, fun other member => hasShape_iff.2 (shaped other member), joined, ?_, ?_⟩
      · intro before other after eq several
        rcases last_or_earlier eq with ⟨rfl, rfl⟩ | ⟨rest, eqFront⟩
        · rw [joined, earlier.joined]
          exact isLastCut_iff.2 ⟨shapedFront, shapedPiece, rightmost⟩
        · exact earlier.lastCut before other rest eqFront several
      · intro first later eq
        obtain ⟨head, tail, rfl⟩ := List.exists_cons_of_ne_nil earlier.nonempty
        obtain ⟨rfl, -⟩ := List.cons.inj eq
        exact earlier.uncut head tail rfl

theorem TapDivision.init {s last : List Char} {front : List (List Char)}
    (division : TapDivision s (front ++ [last])) (several : front ≠ []) :
    TapDivision (Text.join ';' front) front where
  nonempty := several
  shaped piece member := division.shaped piece (by simp [member])
  joined := rfl
  lastCut before piece after eq := by
    subst eq
    exact division.lastCut before piece (after ++ [last]) (by simp)
  uncut first later eq := by
    subst eq
    exact division.uncut first (later ++ [last]) (by simp)

theorem TapDivision.divided {s : List Char} {pieces : List (List Char)}
    (division : TapDivision s pieces) : Divided s pieces := by
  -- Induction on the pieces from the right, as `Divided` takes them.
  induction pieces using List.reverseRecOn generalizing s with
  | nil => exact absurd rfl division.nonempty
  | append_singleton front last ih =>
      obtain rfl := division.joined
      by_cases single : front = []
      · subst single
        exact .whole (whole_iff.2 (division.uncut last [] rfl))
      · have cut := division.lastCut front last [] rfl single
        rw [Text.join_concat single] at cut ⊢
        obtain ⟨shapedFront, shapedLast, rightmost⟩ := isLastCut_iff.1 cut
        exact .last shapedFront shapedLast rightmost (ih (division.init single))

theorem tapDivision_iff {s : List Char} {pieces : List (List Char)} :
    TapDivision s pieces ↔ Divided s pieces ∧ ∀ piece ∈ pieces, Shaped piece := by
  constructor
  · intro division
    exact ⟨division.divided, fun piece member => hasShape_iff.1 (division.shaped piece member)⟩
  · rintro ⟨divided, shaped⟩
    exact divided.tapDivision shaped

/-! ## TAP -/

theorem split_tap_iff (raw : String) :
    ((∃ pieces, split .tap raw = .ok pieces) ↔
      HasShape raw.toList ∨ ∃ front rest, IsCut raw.toList front rest) ∧
    (∀ refusal, split .tap raw = .error refusal ↔
      refusal = .malformed raw .noDeclaration ∧ ¬HasShape raw.toList ∧
        ∀ front rest, ¬IsCut raw.toList front rest) ∧
    ∀ pieces, split .tap raw = .ok pieces ↔ TapDivision raw.toList (pieces.map String.toList) := by
  have refused (refusal : UploadError) : split .tap raw = .error refusal ↔
      refusal = .malformed raw .noDeclaration ∧ ¬HasShape raw.toList ∧
        ∀ front rest, ¬IsCut raw.toList front rest := by
    rw [split_tap_eq_error_iff, hasShape_iff, whole_iff]
  refine ⟨?_, refused, fun pieces => ?_⟩
  · cases outcome : split .tap raw with
    | error refusal =>
        obtain ⟨-, notShaped, uncut⟩ := (refused refusal).1 outcome
        simp [notShaped, uncut]
    | ok pieces =>
        refine iff_of_true ⟨pieces, rfl⟩ ?_
        by_contra undivided
        have failed := (refused (.malformed raw .noDeclaration)).2 ⟨rfl, by simpa using undivided⟩
        rw [outcome] at failed
        cases failed
  · rw [split_tap_eq_ok_iff, tapDivision_iff, List.forall_mem_map]

/-- A value may have a cut without having the shape: a line feed is allowed before a comma only. -/
example : split .tap "a,b;c\n,d;e" = .ok ["a,b", "c\n,d;e"] := by decide +kernel

end RequestUploads.Declaration
