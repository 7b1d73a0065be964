import Mathlib.Data.List.DropRight
import RequestUploads.Text.Blank
import RequestUploads.Text.Pieces

namespace RequestUploads

theorem Blank.trimStart_eq_nil_iff {s : List Char} :
    Blank.trimStart s = [] ↔ Blank.isBlankText s = true := by
  simp [Blank.trimStart, Blank.isBlankText, List.dropWhile_eq_nil_iff]

theorem Blank.trim_eq_nil_iff {s : List Char} :
    Blank.trim s = [] ↔ Blank.isBlankText s = true := by
  constructor
  · intro empty
    have reversed := Blank.trimStart_eq_nil_iff.1 (List.reverse_eq_nil_iff.1 empty)
    have back : Blank.isBlankText (Blank.trimStart s) = true := by
      simpa [Blank.isBlankText] using reversed
    have front := Blank.trimStart_eq_nil_iff.2 back
    rw [Blank.trimStart, Blank.trimStart, List.dropWhile_idempotent] at front
    exact Blank.trimStart_eq_nil_iff.1 front
  · intro blank
    rw [Blank.trim, Blank.trimStart_eq_nil_iff.2 blank]
    rfl

theorem Blank.trim_ne_nil {s : List Char} {c : Char} (member : c ∈ s)
    (visible : Blank.isBlank c = false) : Blank.trim s ≠ [] := by
  intro empty
  have blank := List.all_eq_true.1 (Blank.trim_eq_nil_iff.1 empty) c member
  rw [visible] at blank
  cases blank

theorem Blank.trimStart_of_free {s : List Char} (free : ∀ c ∈ s, Blank.isBlank c = false) :
    Blank.trimStart s = s := by
  cases s with
  | nil => rfl
  | cons c s => simp [Blank.trimStart, free c (by simp)]

theorem Blank.trim_of_free {s : List Char} (free : ∀ c ∈ s, Blank.isBlank c = false) :
    Blank.trim s = s := by
  have reversed : ∀ c ∈ s.reverse, Blank.isBlank c = false := fun c member =>
    free c (List.mem_reverse.1 member)
  rw [Blank.trim, Blank.trimStart_of_free free, Blank.trimEnd, Blank.trimStart_of_free reversed,
    List.reverse_reverse]

theorem Ascii.toNat_of_range {c : Char} (first last : Char) (range : first ≤ c ∧ c ≤ last)
    (low : 0x20 < first.toNat) (high : last.toNat < 0x80) : 0x20 < c.toNat ∧ c.toNat < 0x80 :=
  ⟨Nat.lt_of_lt_of_le low range.1, Nat.lt_of_le_of_lt range.2 high⟩

theorem Blank.isBlank_of_ascii {c : Char} (low : 0x20 < c.toNat) (high : c.toNat < 0x80) :
    Blank.isBlank c = false := by
  simp only [Blank.isBlank, Blank.ranges, List.any_cons, List.any_nil, Bool.or_eq_false_iff,
    decide_eq_false_iff_not, and_true]
  omega

theorem Text.join_cons (sep : Char) (p : List Char) (ps : List (List Char)) :
    Text.join sep (p :: ps) = p ++ ps.flatMap (sep :: ·) := by
  induction ps generalizing p with
  | nil => simp [Text.join]
  | cons q ps ih => rw [Text.join, ih, List.flatMap_cons, List.cons_append]

theorem Text.forall_mem_join {sep : Char} {ps : List (List Char)} {holds : Char → Prop}
    (ofSep : holds sep) (ofPieces : ∀ p ∈ ps, ∀ c ∈ p, holds c) :
    ∀ c ∈ Text.join sep ps, holds c := by
  intro c member
  cases ps with
  | nil => cases member
  | cons p ps =>
      rw [Text.join_cons] at member
      rcases List.mem_append.1 member with inFirst | later
      · exact ofPieces p (by simp) c inFirst
      · obtain ⟨q, inRest, inside⟩ := List.mem_flatMap.1 later
        rcases List.mem_cons.1 inside with rfl | inPiece
        · exact ofSep
        · exact ofPieces q (by simp [inRest]) c inPiece

theorem Text.join_concat {sep : Char} {ps : List (List Char)} (nonempty : ps ≠ [])
    (p : List Char) : Text.join sep (ps ++ [p]) = Text.join sep ps ++ sep :: p := by
  obtain ⟨first, rest, rfl⟩ := List.exists_cons_of_ne_nil nonempty
  simp [Text.join_cons]

theorem Text.join_eq_intercalate (sep : Char) (ps : List (List Char)) :
    Text.join sep ps = [sep].intercalate ps := by
  cases ps with
  | nil => rfl
  | cons p ps =>
      induction ps generalizing p with
      | nil => simp [Text.join]
      | cons q ps ih => simp [Text.join, ih]

theorem Text.cut?_append {sep : Char} {front : List Char} (free : sep ∉ front) (rest : List Char) :
    Text.cut? sep (front ++ sep :: rest) = some (front, rest) := by
  induction front with
  | nil => simp [Text.cut?]
  | cons c front ih =>
      have differ : c ≠ sep := fun same => free (by simp [same])
      have others := ih fun member => free (by simp [member])
      simp [Text.cut?, differ, others]

theorem Text.not_mem_of_cut? {sep : Char} {s front rest : List Char}
    (cut : Text.cut? sep s = some (front, rest)) : sep ∉ front := by
  induction s generalizing front with
  | nil => simp [Text.cut?] at cut
  | cons c s ih =>
      by_cases same : c = sep
      · simp only [Text.cut?, same, if_true, Option.some.injEq, Prod.mk.injEq] at cut
        simp [← cut.1]
      · simp only [Text.cut?, same, if_false, Option.map_eq_some_iff, Prod.mk.injEq,
          Prod.exists] at cut
        obtain ⟨front', rest', later, rfl, rfl⟩ := cut
        simpa [Ne.symm same] using ih later

theorem Text.cut?_eq_some_iff {sep : Char} {s front rest : List Char} :
    Text.cut? sep s = some (front, rest) ↔ sep ∉ front ∧ s = front ++ sep :: rest := by
  constructor
  · exact fun cut => ⟨not_mem_of_cut? cut, eq_append_of_cut? cut⟩
  · rintro ⟨free, rfl⟩
    exact cut?_append free rest

theorem Text.exists_of_free_append {sep : Char} {start rest front later : List Char}
    (free : sep ∉ start) (eq : start ++ rest = front ++ sep :: later) :
    ∃ more, front = start ++ more ∧ rest = more ++ sep :: later := by
  induction start generalizing front with
  | nil => exact ⟨front, rfl, eq⟩
  | cons c start ih =>
      cases front with
      | nil => exact absurd (List.cons.inj eq).1 fun same => free (by simp [same])
      | cons d front =>
          obtain ⟨rfl, eqTail⟩ := List.cons.inj eq
          obtain ⟨more, rfl, later⟩ := ih (fun member => free (by simp [member])) eqTail
          exact ⟨more, rfl, later⟩

theorem Text.same_or_later {sep : Char} {front rest other later : List Char}
    (eq : front ++ sep :: rest = other ++ sep :: later) :
    (front = other ∧ rest = later) ∨
      (∃ between, other = front ++ sep :: between ∧ rest = between ++ sep :: later) ∨
      ∃ between, front = other ++ sep :: between ∧ later = between ++ sep :: rest := by
  rcases List.append_eq_append_iff.1 eq with ⟨gap, rfl, tail⟩ | ⟨gap, rfl, tail⟩
  · rcases List.cons_eq_append_iff.1 tail with ⟨rfl, same⟩ | ⟨between, rfl, rfl⟩
    · exact .inl ⟨by simp, (List.cons.inj same).2.symm⟩
    · exact .inr (.inl ⟨between, rfl, rfl⟩)
  · rcases List.cons_eq_append_iff.1 tail with ⟨rfl, same⟩ | ⟨between, rfl, rfl⟩
    · exact .inl ⟨by simp, (List.cons.inj same).2⟩
    · exact .inr (.inr ⟨between, rfl, rfl⟩)

end RequestUploads
