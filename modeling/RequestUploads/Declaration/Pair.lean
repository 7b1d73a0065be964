import RequestUploads.Error
import RequestUploads.Text.Pieces
import RequestUploads.Uri.Scheme

namespace RequestUploads.Declaration

def IsLabel : List Char → Prop
  | [] => False
  | c :: s => c.isAlpha = true ∧ ∀ d ∈ s, d.isAlphanum = true ∨ d = '_'

instance : DecidablePred IsLabel
  | [] => .isFalse id
  | c :: s =>
      decidable_of_iff ((c.isAlpha && s.all fun d => d.isAlphanum || d == '_') = true)
        (by simp [IsLabel])

def IsTarget (s : List Char) : Prop :=
  match Scheme.split? s with
  | some (_, rest) => rest ≠ [] ∧ '\n' ∉ rest
  | none => False

instance : DecidablePred IsTarget := fun s => by unfold IsTarget; split <;> infer_instance

theorem isTarget_iff {s : List Char} :
    IsTarget s ↔ ∃ name rest, Scheme.IsScheme name ∧ rest ≠ [] ∧ '\n' ∉ rest ∧
      s = name ++ ':' :: rest := by
  unfold IsTarget
  constructor
  · intro h
    split at h
    · rename_i name rest found
      obtain ⟨isScheme, eq⟩ := Scheme.split?_eq_some_iff.1 found
      exact ⟨name, rest, isScheme, h.1, h.2, eq⟩
    · exact h.elim
  · rintro ⟨name, rest, isScheme, nonempty, oneLine, eq⟩
    rw [Scheme.split?_eq_some_iff.2 ⟨isScheme, eq⟩]
    exact ⟨nonempty, oneLine⟩

def pair (declaration : String) : Except UploadError (String × String) :=
  match Text.cut? ',' declaration.toList with
  | none => .error (.malformed declaration .noPair)
  | some (label, target) =>
      if ¬IsLabel label then .error (.malformed (String.ofList label) .badLabel)
      else if ¬IsTarget target then .error (.malformed (String.ofList target) .badTarget)
      else .ok (String.ofList label, String.ofList target)

end RequestUploads.Declaration
