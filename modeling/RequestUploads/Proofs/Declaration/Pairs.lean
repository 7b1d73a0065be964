import Mathlib.Computability.Language
import RequestUploads.Proofs.Declaration.Grammar

namespace RequestUploads.Declaration
open scoped Computability

/-! ## Languages -/

def Within (ranges : List (Char × Char)) (c : Char) : Prop :=
  ∃ range ∈ ranges, range.1 ≤ c ∧ c ≤ range.2

def oneOf (ranges : List (Char × Char)) : Language Char := {s | ∃ c, Within ranges c ∧ s = [c]}

def letter : Language Char := oneOf [('a', 'z'), ('A', 'Z')]

def labelChar : Language Char := oneOf [('a', 'z'), ('A', 'Z'), ('0', '9'), ('_', '_')]

def schemeChar : Language Char :=
  oneOf [('a', 'z'), ('A', 'Z'), ('0', '9'), ('+', '+'), ('.', '.'), ('-', '-')]

def labels : Language Char := letter * labelChar∗

def schemes : Language Char := letter * schemeChar∗

def lines : Language Char := {s | s ≠ [] ∧ '\n' ∉ s}

def targets : Language Char := schemes * {[':']} * lines

theorem mem_oneOf_mul {ranges : List (Char × Char)} {language : Language Char} {s : List Char} :
    s ∈ oneOf ranges * language ↔
      ∃ c rest, s = c :: rest ∧ Within ranges c ∧ rest ∈ language := by
  rw [Language.mem_mul]
  constructor
  · rintro ⟨_, ⟨c, within, rfl⟩, rest, member, rfl⟩
    exact ⟨c, rest, rfl, within, member⟩
  · rintro ⟨c, rest, rfl, within, member⟩
    exact ⟨[c], ⟨c, within, rfl⟩, rest, member, rfl⟩

theorem mem_kstar_oneOf {ranges : List (Char × Char)} {s : List Char} :
    s ∈ (oneOf ranges)∗ ↔ ∀ c ∈ s, Within ranges c := by
  induction s with
  | nil => simp [Language.nil_mem_kstar]
  | cons c s ih =>
      rw [← Language.one_add_self_mul_kstar_eq_kstar, Language.mem_add, Language.mem_one,
        mem_oneOf_mul, List.forall_mem_cons, ← ih]
      constructor
      · rintro (empty | ⟨d, rest, same, within, member⟩)
        · cases empty
        · cases same
          exact ⟨within, member⟩
      · rintro ⟨within, member⟩
        exact .inr ⟨c, s, rfl, within, member⟩

/-! ## The classes of the reader -/

theorem isAlpha_iff {c : Char} :
    c.isAlpha = true ↔ ('a' ≤ c ∧ c ≤ 'z') ∨ ('A' ≤ c ∧ c ≤ 'Z') := by
  have upper : c.isUpper = decide ('A' ≤ c ∧ c ≤ 'Z') := rfl
  have lower : c.isLower = (decide ('a' ≤ c) && decide (c ≤ 'z')) := rfl
  have either : c.isAlpha = (c.isUpper || c.isLower) := rfl
  simp [either, upper, lower, or_comm]

theorem isAlphanum_iff {c : Char} :
    c.isAlphanum = true ↔
      ('a' ≤ c ∧ c ≤ 'z') ∨ ('A' ≤ c ∧ c ≤ 'Z') ∨ ('0' ≤ c ∧ c ≤ '9') := by
  rw [Char.isAlphanum, Bool.or_eq_true, isAlpha_iff, or_assoc]
  simp only [Char.isDigit, Bool.and_eq_true, decide_eq_true_eq, Char.le_def]

theorem within_singleton {c d : Char} : d ≤ c ∧ c ≤ d ↔ c = d :=
  ⟨fun bounds => Char.le_antisymm bounds.2 bounds.1, by rintro rfl; exact ⟨c.le_refl, c.le_refl⟩⟩

theorem mem_labels_iff {s : List Char} : s ∈ labels ↔ IsLabel s := by
  rw [labels, letter, mem_oneOf_mul, labelChar]
  simp only [mem_kstar_oneOf]
  cases s with
  | nil => simp [IsLabel]
  | cons c s =>
      simp [IsLabel, Within, isAlpha_iff, isAlphanum_iff, within_singleton, or_assoc]

theorem mem_schemes_iff {s : List Char} : s ∈ schemes ↔ Scheme.IsScheme s := by
  rw [schemes, letter, mem_oneOf_mul, schemeChar]
  simp only [mem_kstar_oneOf]
  cases s with
  | nil => simp [Scheme.IsScheme]
  | cons c s =>
      simp [Scheme.IsScheme, Scheme.isChar, Within, isAlpha_iff, isAlphanum_iff, within_singleton,
        or_assoc]

theorem mem_targets_iff {s : List Char} : s ∈ targets ↔ IsTarget s := by
  rw [isTarget_iff, targets]
  simp only [Language.mem_mul, mem_schemes_iff]
  constructor
  · rintro ⟨_, ⟨scheme, isScheme, _, rfl, rfl⟩, rest, ⟨nonempty, oneLine⟩, rfl⟩
    exact ⟨scheme, rest, isScheme, nonempty, oneLine, by simp⟩
  · rintro ⟨scheme, rest, isScheme, nonempty, oneLine, rfl⟩
    exact ⟨scheme ++ [':'], ⟨scheme, isScheme, [':'], rfl, rfl⟩, rest, ⟨nonempty, oneLine⟩,
      by simp⟩

/-! ## Declarations -/

structure IsPair (declaration label target : String) : Prop where
  joined : declaration = label ++ "," ++ target
  isLabel : label.toList ∈ labels
  isTarget : target.toList ∈ targets

/-- Why a text is no declaration: it has no comma, or what is before the first comma is no label,
or what is after it is no target. -/
inductive Refused (declaration : String) : UploadError → Prop
  | noComma : ',' ∉ declaration.toList → Refused declaration (.malformed declaration .noPair)
  | badLabel {front rest : String} : declaration = front ++ "," ++ rest → ',' ∉ front.toList →
      front.toList ∉ labels → Refused declaration (.malformed front .badLabel)
  | badTarget {label rest : String} : declaration = label ++ "," ++ rest → label.toList ∈ labels →
      rest.toList ∉ targets → Refused declaration (.malformed rest .badTarget)

theorem toList_comma {s front rest : String} :
    s = front ++ "," ++ rest ↔ s.toList = front.toList ++ ',' :: rest.toList := by
  rw [← String.toList_inj]
  simp

theorem comma_not_mem_label {label : List Char} (isLabel : label ∈ labels) : ',' ∉ label :=
  (mem_labels_iff.1 isLabel).not_mem (by decide) (by decide)

theorem pair_eq_ok_iff_isPair {declaration label target : String} :
    pair declaration = .ok (label, target) ↔ IsPair declaration label target := by
  rw [pair_eq_ok_iff, ← mem_labels_iff, ← mem_targets_iff, ← toList_comma]
  constructor
  · rintro ⟨isLabel, isTarget, joined⟩
    exact ⟨joined, isLabel, isTarget⟩
  · rintro ⟨joined, isLabel, isTarget⟩
    exact ⟨isLabel, isTarget, joined⟩

theorem pair_of_cut {declaration front rest : String} (cut : declaration = front ++ "," ++ rest)
    (first : ',' ∉ front.toList) :
    pair declaration =
      if ¬IsLabel front.toList then .error (.malformed front .badLabel)
      else if ¬IsTarget rest.toList then .error (.malformed rest .badTarget)
      else .ok (front, rest) := by
  simp only [pair, toList_comma.1 cut, Text.cut?_append first, String.ofList_toList]

theorem pair_of_no_comma {declaration : String} (free : ',' ∉ declaration.toList) :
    pair declaration = .error (.malformed declaration .noPair) := by
  unfold pair
  split
  · rfl
  · rename_i front rest cut
    exact absurd (by simp [Text.eq_append_of_cut? cut]) free

theorem exists_cut {declaration : String} (comma : ',' ∈ declaration.toList) :
    ∃ front rest : String, declaration = front ++ "," ++ rest ∧ ',' ∉ front.toList := by
  obtain ⟨front, rest, eq, first⟩ := List.eq_append_cons_of_mem comma
  refine ⟨String.ofList front, String.ofList rest, ?_, by simpa using first⟩
  rw [toList_comma]
  simpa using eq

theorem refused_of_pair {declaration : String} {refusal : UploadError}
    (refuses : pair declaration = .error refusal) : Refused declaration refusal := by
  by_cases comma : ',' ∈ declaration.toList
  · obtain ⟨front, rest, cut, first⟩ := exists_cut comma
    rw [pair_of_cut cut first] at refuses
    split_ifs at refuses with isLabel isTarget
    · cases refuses
      exact .badTarget cut (mem_labels_iff.2 isLabel) (mem_targets_iff.not.2 isTarget)
    · cases refuses
      exact .badLabel cut first (mem_labels_iff.not.2 isLabel)
  · rw [pair_of_no_comma comma] at refuses
    cases refuses
    exact .noComma comma

theorem pair_of_refused {declaration : String} {refusal : UploadError}
    (refused : Refused declaration refusal) : pair declaration = .error refusal := by
  cases refused with
  | noComma free => exact pair_of_no_comma free
  | badLabel cut first notLabel =>
      rw [pair_of_cut cut first, if_pos (mem_labels_iff.not.1 notLabel)]
  | badTarget cut isLabel notTarget =>
      rw [pair_of_cut cut (comma_not_mem_label isLabel),
        if_neg (not_not_intro (mem_labels_iff.1 isLabel)),
        if_pos (mem_targets_iff.not.1 notTarget)]

theorem pair_iff (declaration : String) :
    (∀ label target, pair declaration = .ok (label, target) ↔ IsPair declaration label target) ∧
    (∀ label target other rest, IsPair declaration label target → IsPair declaration other rest →
      label = other ∧ target = rest) ∧
    ∀ refusal, pair declaration = .error refusal ↔ Refused declaration refusal := by
  refine ⟨fun label target => pair_eq_ok_iff_isPair, ?_, fun refusal => ?_⟩
  · intro label target other rest divides again
    have accepted := pair_eq_ok_iff_isPair.2 divides
    rw [pair_eq_ok_iff_isPair.2 again] at accepted
    cases accepted
    exact ⟨rfl, rfl⟩
  · exact ⟨refused_of_pair, pair_of_refused⟩

/-- A target may hold commas, but no line feed, not even at its end. -/
example : pair "a,urn:x,y" = .ok ("a", "urn:x,y") ∧
    pair "a,urn:x\n" = .error (.malformed "urn:x\n" .badTarget) := by decide +kernel

end RequestUploads.Declaration
