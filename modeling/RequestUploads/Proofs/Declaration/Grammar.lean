import RequestUploads.Declaration.Split
import RequestUploads.Proofs.Text

namespace RequestUploads.Declaration

/-! ## Labels and targets -/

theorem IsLabel.ne_nil {s : List Char} (label : IsLabel s) : s ≠ [] := by
  rintro rfl
  exact label

theorem IsLabel.not_mem {s : List Char} (label : IsLabel s) {c : Char}
    (other : c.isAlphanum = false) (notUnderscore : c ≠ '_') : c ∉ s := by
  cases s with
  | nil => simp
  | cons d s =>
      intro member
      rcases List.mem_cons.1 member with rfl | inTail
      · simp [Char.isAlphanum, label.1] at other
      · rcases label.2 c inTail with alphanumeric | underscore
        · rw [other] at alphanumeric
          cases alphanumeric
        · exact notUnderscore underscore

theorem not_mem_scheme {s : List Char} (scheme : Scheme.IsScheme s) {c : Char}
    (other : Scheme.isChar c = false) : c ∉ s := by
  intro member
  rw [Scheme.isChar_of_mem scheme c member] at other
  cases other

theorem IsTarget.ne_nil {s : List Char} (target : IsTarget s) : s ≠ [] := by
  obtain ⟨scheme, rest, -, -, -, rfl⟩ := isTarget_iff.1 target
  simp

theorem IsTarget.oneLine {s : List Char} (target : IsTarget s) : '\n' ∉ s := by
  obtain ⟨scheme, rest, isScheme, -, oneLine, rfl⟩ := isTarget_iff.1 target
  have inScheme : '\n' ∉ scheme := not_mem_scheme isScheme (by decide)
  simp [inScheme, oneLine]

/-! ## Shapes -/

theorem shaped_iff {s : List Char} :
    Shaped s ↔ ∃ label target, label ≠ [] ∧ ',' ∉ label ∧ target ≠ [] ∧ '\n' ∉ target ∧
      s = label ++ ',' :: target := by
  unfold Shaped
  constructor
  · intro shaped
    split at shaped
    · rename_i label target cut
      obtain ⟨free, eq⟩ := Text.cut?_eq_some_iff.1 cut
      exact ⟨label, target, shaped.1, free, shaped.2.1, shaped.2.2, eq⟩
    · exact shaped.elim
  · rintro ⟨label, target, labelled, free, targeted, oneLine, rfl⟩
    rw [Text.cut?_append free]
    exact ⟨labelled, targeted, oneLine⟩

theorem Shaped.append {s t : List Char} (shaped : Shaped s) (oneLine : '\n' ∉ t) :
    Shaped (s ++ t) := by
  obtain ⟨label, target, labelled, free, targeted, clean, rfl⟩ := shaped_iff.1 shaped
  exact shaped_iff.2 ⟨label, target ++ t, labelled, free, by simp [targeted],
    by simp [clean, oneLine], by simp⟩

/-! ## Declarations -/

def IsDeclaration (s : List Char) : Prop :=
  ∃ label target, IsLabel label ∧ IsTarget target ∧ s = label ++ ',' :: target

theorem pair_eq_ok_iff {declaration label target : String} :
    pair declaration = .ok (label, target) ↔
      IsLabel label.toList ∧ IsTarget target.toList ∧
        declaration.toList = label.toList ++ ',' :: target.toList := by
  unfold pair
  constructor
  · intro accepted
    split at accepted
    · cases accepted
    · rename_i front rest cut
      split_ifs at accepted with isLabel isTarget
      obtain ⟨rfl, rfl⟩ : String.ofList front = label ∧ String.ofList rest = target := by
        simpa using accepted
      simp only [String.toList_ofList]
      exact ⟨isLabel, isTarget, (Text.cut?_eq_some_iff.1 cut).2⟩
  · rintro ⟨isLabel, isTarget, eq⟩
    have free : ',' ∉ label.toList := isLabel.not_mem (by decide) (by decide)
    rw [eq, Text.cut?_append free]
    simp [isLabel, isTarget]

theorem isDeclaration_of_pair {declaration : String} {parts : String × String}
    (accepted : pair declaration = .ok parts) : IsDeclaration declaration.toList := by
  obtain ⟨isLabel, isTarget, eq⟩ := pair_eq_ok_iff.1 accepted
  exact ⟨_, _, isLabel, isTarget, eq⟩

theorem isDeclaration_iff {declaration : String} :
    IsDeclaration declaration.toList ↔ ∃ parts, pair declaration = .ok parts := by
  constructor
  · rintro ⟨label, target, isLabel, isTarget, eq⟩
    refine ⟨(String.ofList label, String.ofList target), pair_eq_ok_iff.2 ?_⟩
    simpa only [String.toList_ofList] using ⟨isLabel, isTarget, eq⟩
  · rintro ⟨parts, accepted⟩
    exact isDeclaration_of_pair accepted

namespace IsDeclaration

variable {s : List Char}

theorem shaped (declaration : IsDeclaration s) : Shaped s := by
  obtain ⟨label, target, isLabel, isTarget, rfl⟩ := declaration
  exact shaped_iff.2 ⟨label, target, isLabel.ne_nil, isLabel.not_mem (by decide) (by decide),
    isTarget.ne_nil, isTarget.oneLine, rfl⟩

theorem oneLine (declaration : IsDeclaration s) : '\n' ∉ s := by
  obtain ⟨label, target, isLabel, isTarget, rfl⟩ := declaration
  have inLabel : '\n' ∉ label := isLabel.not_mem (by decide) (by decide)
  simp [inLabel, isTarget.oneLine]

theorem comma_mem (declaration : IsDeclaration s) : ',' ∈ s := by
  obtain ⟨label, target, -, -, rfl⟩ := declaration
  simp

end IsDeclaration

/-! ## Starts of declarations -/

theorem startsDeclaration_iff {s : List Char} :
    StartsDeclaration s ↔ ∃ label scheme c rest, IsLabel label ∧ Scheme.IsScheme scheme ∧
      c ≠ '\n' ∧ s = label ++ ',' :: (scheme ++ ':' :: c :: rest) := by
  unfold StartsDeclaration
  constructor
  · intro starts
    split at starts
    · rename_i label target cut
      obtain ⟨isLabel, goesOn⟩ := starts
      split at goesOn
      · rename_i scheme c rest found
        obtain ⟨isScheme, rfl⟩ := Scheme.split?_eq_some_iff.1 found
        exact ⟨label, scheme, c, rest, isLabel, isScheme, goesOn,
          (Text.cut?_eq_some_iff.1 cut).2⟩
      · exact goesOn.elim
    · exact starts.elim
  · rintro ⟨label, scheme, c, rest, isLabel, isScheme, visible, rfl⟩
    have free : ',' ∉ label := isLabel.not_mem (by decide) (by decide)
    rw [Text.cut?_append free]
    simp only [Scheme.split?_eq_some_iff.2 ⟨isScheme, rfl⟩]
    exact ⟨isLabel, visible⟩

theorem IsDeclaration.starts {s : List Char} (declaration : IsDeclaration s) :
    StartsDeclaration s := by
  obtain ⟨label, target, isLabel, isTarget, rfl⟩ := declaration
  obtain ⟨scheme, rest, isScheme, nonempty, oneLine, rfl⟩ := isTarget_iff.1 isTarget
  obtain ⟨c, rest, rfl⟩ := List.exists_cons_of_ne_nil nonempty
  have visible : c ≠ '\n' := fun same => oneLine (by simp [same])
  exact startsDeclaration_iff.2 ⟨label, scheme, c, rest, isLabel, isScheme, visible, rfl⟩

theorem StartsDeclaration.shaped {s : List Char} (starts : StartsDeclaration s)
    (oneLine : '\n' ∉ s) : Shaped s := by
  obtain ⟨label, scheme, c, rest, isLabel, -, -, rfl⟩ := startsDeclaration_iff.1 starts
  have clean : '\n' ∉ scheme ++ ':' :: c :: rest := fun member => oneLine (by simp [member])
  exact shaped_iff.2 ⟨label, scheme ++ ':' :: c :: rest, isLabel.ne_nil,
    isLabel.not_mem (by decide) (by decide), by simp, clean, rfl⟩

theorem joinsDeclarations_iff {s : List Char} :
    joinsDeclarations s = true ↔
      ∃ front rest, s = front ++ ';' :: rest ∧ StartsDeclaration rest := by
  induction s with
  | nil => simp [joinsDeclarations]
  | cons c s ih =>
      simp only [joinsDeclarations, Bool.or_eq_true, decide_eq_true_eq, ih]
      constructor
      · rintro (⟨rfl, starts⟩ | ⟨front, rest, rfl, starts⟩)
        · exact ⟨[], s, rfl, starts⟩
        · exact ⟨c :: front, rest, rfl, starts⟩
      · rintro ⟨front, rest, eq, starts⟩
        cases front with
        | nil =>
            obtain ⟨rfl, rfl⟩ := List.cons.inj eq
            exact .inl ⟨rfl, starts⟩
        | cons d front =>
            obtain ⟨rfl, rfl⟩ := List.cons.inj eq
            exact .inr ⟨front, rest, rfl, starts⟩

end RequestUploads.Declaration
