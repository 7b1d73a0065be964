import RequestUploads.Text.Ascii

namespace RequestUploads.Scheme

def isChar (c : Char) : Bool := c.isAlphanum || c = '+' || c = '.' || c = '-'

def IsScheme : List Char → Prop
  | [] => False
  | c :: s => c.isAlpha = true ∧ ∀ d ∈ s, isChar d = true

instance : DecidablePred IsScheme
  | [] => .isFalse id
  | c :: s => decidable_of_iff ((c.isAlpha && s.all isChar) = true) (by simp [IsScheme])

theorem not_isChar_colon : isChar ':' = false := by decide

theorem isChar_of_isAlpha {c : Char} (h : c.isAlpha = true) : isChar c = true := by
  simp [isChar, Char.isAlphanum, h]

def split? (s : List Char) : Option (List Char × List Char) :=
  match s.dropWhile isChar with
  | ':' :: rest => if IsScheme (s.takeWhile isChar) then some (s.takeWhile isChar, rest) else none
  | _ => none

theorem isChar_of_mem {s : List Char} (h : IsScheme s) : ∀ c ∈ s, isChar c = true := by
  cases s with
  | nil => simp
  | cons c s =>
      intro d member
      rcases List.mem_cons.1 member with rfl | inTail
      · exact isChar_of_isAlpha h.1
      · exact h.2 d inTail

theorem takeWhile_of_all {p : Char → Bool} {s t : List Char} {c : Char}
    (all : ∀ d ∈ s, p d = true) (stop : p c = false) :
    (s ++ c :: t).takeWhile p = s ∧ (s ++ c :: t).dropWhile p = c :: t := by
  induction s with
  | nil => simp [stop]
  | cons d s ih =>
      have := ih fun e member => all e (by simp [member])
      simp [all d (by simp), this]

theorem split?_eq_some_iff {s name rest : List Char} :
    split? s = some (name, rest) ↔ IsScheme name ∧ s = name ++ ':' :: rest := by
  constructor
  · intro h
    unfold split? at h
    split at h
    · rename_i tail stop
      split at h
      · rename_i isScheme
        simp only [Option.some.injEq, Prod.mk.injEq] at h
        obtain ⟨rfl, rfl⟩ := h
        refine ⟨isScheme, ?_⟩
        rw [← stop, List.takeWhile_append_dropWhile]
      · simp at h
    · simp at h
  · rintro ⟨isScheme, rfl⟩
    have parts := takeWhile_of_all (t := rest) (isChar_of_mem isScheme) not_isChar_colon
    simp [split?, parts, isScheme]

end RequestUploads.Scheme
