import RequestUploads.Proofs.Declaration.Cuts

/-!
# Joined declarations

Declarations are joined by semicolons.  TAP takes them apart again if it leaves each of them whole
on its own, and what it takes apart into declarations was joined from such
(`split_tap_joined_iff`).  This needs the grammar of declarations: in one of them a semicolon stands
after the scheme of the target, so what is before it in the declaration has the shape by itself
(`IsDeclaration.shaped_before`), whatever the declaration is joined to.

DALI refuses joined declarations.  Of the values with the shape of a declaration it refuses those
that have a declaration after a semicolon, and no others (`split_dali_iff`).  It looks for the start
of a declaration only, but in a text with the shape no line feed stands after a comma
(`Shaped.oneLine_after`), so what starts there is a declaration to its end.
-/

namespace RequestUploads.Declaration

/-! ## Taking apart -/

theorem shaped_join {pieces : List (List Char)} (nonempty : pieces ≠ [])
    (declarations : ∀ piece ∈ pieces, IsDeclaration piece) : Shaped (Text.join ';' pieces) := by
  obtain ⟨first, rest, rfl⟩ := List.exists_cons_of_ne_nil nonempty
  rw [Text.join_cons]
  refine (declarations first (by simp)).shaped.append ?_
  intro lineFeed
  obtain ⟨piece, member, inside⟩ := List.mem_flatMap.1 lineFeed
  rcases List.mem_cons.1 inside with bad | inPiece
  · cases bad
  · exact (declarations piece (by simp [member])).oneLine inPiece

theorem divided_join {pieces : List (List Char)} (nonempty : pieces ≠ [])
    (declarations : ∀ piece ∈ pieces, IsDeclaration piece)
    (whole : ∀ piece ∈ pieces, Whole piece) : Divided (Text.join ';' pieces) pieces := by
  -- Induction on the joined declarations from the right, as they are divided. A later division
  -- would be one of the last declaration alone.
  induction pieces using List.reverseRecOn with
  | nil => exact absurd rfl nonempty
  | append_singleton front last ih =>
      by_cases single : front = []
      · subst single
        exact .whole (whole last (by simp))
      · have earlier : ∀ piece ∈ front, IsDeclaration piece := fun piece member =>
          declarations piece (by simp [member])
        have lastDeclaration := declarations last (by simp)
        rw [Text.join_concat single]
        refine .last (shaped_join single earlier) lastDeclaration.shaped ?_
          (ih single earlier fun piece member => whole piece (by simp [member]))
        rintro x y eq ⟨-, shapedRest⟩
        exact whole last (by simp) x y eq ⟨lastDeclaration.shaped_before eq, shapedRest⟩

theorem whole_of_free {s : List Char} (free : ';' ∉ s) : Whole s := by
  rintro front rest rfl
  exact absurd (by simp) free

theorem split_join {pieces : List (List Char)} (nonempty : pieces ≠ [])
    (declarations : ∀ piece ∈ pieces, IsDeclaration piece)
    (free : ∀ piece ∈ pieces, ';' ∉ piece) :
    split .tap (String.ofList (Text.join ';' pieces)) = .ok (pieces.map String.ofList) := by
  have whole : ∀ piece ∈ pieces, Whole piece := fun piece member =>
    whole_of_free (free piece member)
  have divided := divided_join nonempty declarations whole
  obtain ⟨first, rest, rfl⟩ := List.exists_cons_of_ne_nil nonempty
  rw [split_tap (by rwa [String.toList_ofList]), if_pos (declarations first (by simp)).shaped]

theorem split_tap_self_iff {declaration : String} :
    split .tap declaration = .ok [declaration] ↔
      Whole declaration.toList ∧ Shaped declaration.toList := by
  rw [split_tap_eq_ok_iff, List.map_singleton, List.forall_mem_singleton]
  constructor
  · rintro ⟨divided, shaped⟩
    have division := divided.tapDivision (List.forall_mem_singleton.2 shaped)
    exact ⟨whole_iff.2 (division.uncut _ [] rfl), shaped⟩
  · rintro ⟨whole, shaped⟩
    exact ⟨.whole whole, shaped⟩

theorem toList_intercalate (pieces : List String) :
    (";".intercalate pieces).toList = Text.join ';' (pieces.map String.toList) := by
  rw [String.toList_intercalate, Text.join_eq_intercalate]
  rfl

theorem split_tap_joined_iff (raw : String) (pieces : List String)
    (accepted : ∀ piece ∈ pieces, ∃ parts, pair piece = .ok parts) :
    split .tap raw = .ok pieces ↔
      pieces ≠ [] ∧ raw = ";".intercalate pieces ∧
        ∀ piece ∈ pieces, split .tap piece = .ok [piece] := by
  have declarations : ∀ piece ∈ pieces.map String.toList, IsDeclaration piece :=
    List.forall_mem_map.2 fun piece member => isDeclaration_iff.2 (accepted piece member)
  constructor
  · intro divides
    obtain ⟨divided, shaped⟩ := split_tap_eq_ok_iff.1 divides
    have division := divided.tapDivision (List.forall_mem_map.2 shaped)
    refine ⟨?_, ?_, ?_⟩
    · rintro rfl
      exact division.nonempty rfl
    · rw [← String.toList_inj, toList_intercalate, division.joined]
    · intro piece member
      have inDivision := List.mem_map_of_mem (f := String.toList) member
      exact split_of_whole .tap (divided.whole_of_mem _ inDivision (declarations _ inDivision))
        (declarations _ inDivision)
  · rintro ⟨nonempty, rfl, whole⟩
    rw [split_tap_eq_ok_iff, toList_intercalate]
    refine ⟨divided_join (by simpa using nonempty) declarations ?_, ?_⟩
    · exact List.forall_mem_map.2 fun piece member => (split_tap_self_iff.1 (whole piece member)).1
    · exact fun piece member => (split_tap_self_iff.1 (whole piece member)).2

theorem split_tap_joined_semicolons :
    let pieces := ["a,http://x/1,2;c=3", "b,ivo://y;,z"]
    (∀ piece ∈ pieces, ∃ parts, pair piece = .ok parts) ∧
      (∀ piece ∈ pieces, split .tap piece = .ok [piece]) ∧
      split .tap "a,http://x/1,2;c=3;b,ivo://y;,z" = .ok pieces := by
  intro pieces
  have accepted : ∀ piece ∈ pieces, ∃ parts, pair piece = .ok parts := by
    refine List.forall_mem_cons.2 ⟨⟨("a", "http://x/1,2;c=3"), by decide +kernel⟩, ?_⟩
    exact List.forall_mem_singleton.2 ⟨("b", "ivo://y;,z"), by decide +kernel⟩
  have whole : ∀ piece ∈ pieces, split .tap piece = .ok [piece] := by decide +kernel
  have joined : "a,http://x/1,2;c=3;b,ivo://y;,z" = ";".intercalate pieces := by decide +kernel
  have apart := (split_tap_joined_iff _ pieces accepted).2 ⟨by simp [pieces], joined, whole⟩
  exact ⟨accepted, whole, apart⟩

/-! ## Refusing -/

theorem Shaped.oneLine_after {s before after : List Char} (shaped : Shaped s)
    (eq : s = before ++ ',' :: after) : '\n' ∉ after := by
  obtain ⟨label, target, -, free, -, oneLine, rfl⟩ := shaped_iff.1 shaped
  rcases Text.same_or_later eq with ⟨-, rfl⟩ | ⟨between, rfl, rfl⟩ | ⟨between, rfl, -⟩
  · exact oneLine
  · exact fun lineFeed => oneLine (by simp [lineFeed])
  · exact absurd (by simp) free

theorem joins_iff_of_shaped {s : List Char} (shaped : Shaped s) :
    joinsDeclarations s = true ↔ ∃ front rest, s = front ++ ';' :: rest ∧ IsDeclaration rest := by
  rw [joinsDeclarations_iff]
  constructor
  · rintro ⟨front, rest, rfl, starts⟩
    obtain ⟨label, scheme, c, path, isLabel, isScheme, -, rfl⟩ := startsDeclaration_iff.1 starts
    have oneLine : '\n' ∉ scheme ++ ':' :: c :: path :=
      shaped.oneLine_after (List.append_assoc front (';' :: label) _).symm
    have target : IsTarget (scheme ++ ':' :: c :: path) := by
      refine isTarget_iff.2 ⟨scheme, c :: path, isScheme, by simp, ?_, rfl⟩
      exact fun lineFeed => oneLine (by simp [lineFeed])
    exact ⟨front, _, rfl, label, _, isLabel, target, rfl⟩
  · rintro ⟨front, rest, eq, declaration⟩
    exact ⟨front, rest, eq, declaration.starts⟩

theorem joins_iff_exists_pair {raw : String} (shaped : Shaped raw.toList) :
    joinsDeclarations raw.toList = true ↔
      ∃ front rest, raw = front ++ ";" ++ rest ∧ ∃ parts, pair rest = .ok parts := by
  rw [joins_iff_of_shaped shaped]
  constructor
  · rintro ⟨front, rest, eq, declaration⟩
    refine ⟨String.ofList front, String.ofList rest, ?_, isDeclaration_iff.1 ?_⟩
    · rw [← String.toList_inj, eq]
      simp
    · rwa [String.toList_ofList]
  · rintro ⟨front, rest, rfl, accepted⟩
    exact ⟨front.toList, rest.toList, by simp, isDeclaration_iff.2 accepted⟩

theorem joins_intercalate {pieces : List String} (several : 2 ≤ pieces.length)
    (accepted : ∀ piece ∈ pieces, ∃ parts, pair piece = .ok parts) :
    joinsDeclarations (";".intercalate pieces).toList = true := by
  obtain rfl | ⟨front, last, rfl⟩ := pieces.eq_nil_or_concat
  · simp at several
  · rw [List.concat_eq_append] at several accepted ⊢
    have earlier : front.map String.toList ≠ [] := by
      rintro empty
      simp [List.map_eq_nil_iff.1 empty] at several
    have declaration := isDeclaration_iff.2 (accepted last (by simp))
    rw [toList_intercalate, List.map_append, List.map_singleton, Text.join_concat earlier]
    exact joinsDeclarations_iff.2 ⟨_, _, rfl, declaration.starts⟩

theorem split_dali_eq_ok_iff {raw : String} :
    split .dali raw = .ok [raw] ↔
      Shaped raw.toList ∧ joinsDeclarations raw.toList = false := by
  simp only [split]
  cases joinsDeclarations raw.toList with
  | true => simp
  | false => simp

theorem split_dali_eq_ok_or_error (raw : String) :
    split .dali raw = .ok [raw] ∨ ∃ fault, split .dali raw = .error (.malformed raw fault) := by
  simp only [split]
  split_ifs
  · exact .inr ⟨_, rfl⟩
  · exact .inl rfl
  · exact .inr ⟨_, rfl⟩

def IsSingle (raw : String) : Prop :=
  HasShape raw.toList ∧ ∀ front rest, raw = front ++ ";" ++ rest → ∀ parts, pair rest ≠ .ok parts

theorem isSingle_iff {raw : String} :
    IsSingle raw ↔ Shaped raw.toList ∧ joinsDeclarations raw.toList = false := by
  rw [IsSingle, hasShape_iff]
  refine and_congr_right fun shaped => ?_
  rw [← Bool.not_eq_true, joins_iff_exists_pair shaped]
  simp

theorem split_dali_iff (raw : String) :
    (split .dali raw = .ok [raw] ↔ IsSingle raw) ∧
    ((∃ fault, split .dali raw = .error (.malformed raw fault)) ↔ ¬IsSingle raw) ∧
    ∀ pieces, 2 ≤ pieces.length → (∀ piece ∈ pieces, ∃ parts, pair piece = .ok parts) →
      split .dali (";".intercalate pieces) =
        .error (.malformed (";".intercalate pieces) .severalUploads) := by
  have kept : split .dali raw = .ok [raw] ↔ IsSingle raw := by
    rw [split_dali_eq_ok_iff, isSingle_iff]
  refine ⟨kept, ?_, ?_⟩
  · rw [← kept]
    rcases split_dali_eq_ok_or_error raw with accepted | ⟨fault, refused⟩
    · simp [accepted]
    · simp [refused]
  · intro pieces several accepted
    simp only [split, joins_intercalate several accepted, if_true]

/-- A semicolon stays in the target if what follows it is no declaration. -/
example : split .dali "a,http://x/q;p=1,2;k,v" = .ok ["a,http://x/q;p=1,2;k,v"] := by
  decide +kernel

end RequestUploads.Declaration
