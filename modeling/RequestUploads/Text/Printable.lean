namespace RequestUploads.Printable

def isControl (c : Char) : Bool :=
  c = '\x7f' || (decide (c.toNat < 0x20) && c ∉ ['\t', '\n', '\x0c', '\r'])

inductive Place
  | plain
  | escaped
  | sequence
  | message
deriving DecidableEq, Repr

def Place.after (c : Char) : Place → Place
  | .plain => .plain
  | .escaped =>
      if c = '[' then .sequence
      else if c ∈ [']', 'P', 'X', '^', '_'] then .message
      else if c.toNat < 0x30 then .escaped
      else .plain
  | .sequence => if 0x40 ≤ c.toNat ∧ c.toNat ≤ 0x7e then .plain else .sequence
  | .message => if c = '\x07' then .plain else .message

def shownFrom : Place → List Char → List Char
  | _, [] => []
  | place, c :: s =>
      if c = '\x1b' then shownFrom .escaped s
      else if place = .plain ∧ !isControl c then c :: shownFrom .plain s
      else shownFrom (place.after c) s

def shown (s : List Char) : List Char := shownFrom .plain s

def text (s : String) : String := String.ofList (shown s.toList)

theorem shown_eq_self {s : List Char} (plain : ∀ c ∈ s, isControl c = false) : shown s = s := by
  unfold shown
  induction s with
  | nil => rfl
  | cons c s ih =>
      have notControl := plain c (by simp)
      have notEscape : c ≠ '\x1b' := by rintro rfl; revert notControl; decide
      simp only [shownFrom, notEscape, if_false, notControl, Bool.not_false, and_self, if_true]
      rw [ih fun d mem => plain d (by simp [mem])]

end RequestUploads.Printable
