namespace RequestUploads.Text

def pieces (sep : Char) : List Char → List (List Char)
  | [] => [[]]
  | c :: s =>
      if c = sep then [] :: pieces sep s
      else match pieces sep s with
        | [] => [[c]]
        | p :: ps => (c :: p) :: ps

def join (sep : Char) : List (List Char) → List Char
  | [] => []
  | [p] => p
  | p :: q :: ps => p ++ sep :: join sep (q :: ps)

theorem pieces_ne_nil (sep : Char) (s : List Char) : pieces sep s ≠ [] := by
  cases s with
  | nil => simp [pieces]
  | cons c s =>
      simp only [pieces]
      split
      · simp
      · split <;> simp

theorem join_pieces (sep : Char) (s : List Char) : join sep (pieces sep s) = s := by
  induction s with
  | nil => rfl
  | cons c s ih =>
      simp only [pieces]
      split
      · rename_i same
        cases rest : pieces sep s with
        | nil => exact absurd rest (pieces_ne_nil sep s)
        | cons p ps => rw [rest] at ih; simp [join, ih, same]
      · cases rest : pieces sep s with
        | nil => exact absurd rest (pieces_ne_nil sep s)
        | cons p ps =>
            rw [rest] at ih
            cases ps with
            | nil => simp only [join] at ih ⊢; rw [ih]
            | cons q qs => simp only [join] at ih ⊢; rw [← ih]; rfl

def cut? (sep : Char) : List Char → Option (List Char × List Char)
  | [] => none
  | c :: s => if c = sep then some ([], s) else (cut? sep s).map fun (a, b) => (c :: a, b)

theorem eq_append_of_cut? {sep : Char} {s a b : List Char} (h : cut? sep s = some (a, b)) :
    s = a ++ sep :: b := by
  induction s generalizing a with
  | nil => simp [cut?] at h
  | cons c s ih =>
      simp only [cut?] at h
      split at h
      · rename_i same; simp only [Option.some.injEq, Prod.mk.injEq] at h; simp [← h.1, ← h.2, same]
      · obtain ⟨⟨a', b'⟩, rest, eq⟩ := Option.map_eq_some_iff.1 h
        simp only [Prod.mk.injEq] at eq
        obtain ⟨rfl, rfl⟩ := eq
        rw [ih rest]; rfl

end RequestUploads.Text
