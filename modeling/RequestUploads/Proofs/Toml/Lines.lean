import Mathlib.Data.List.Nodup
import RequestUploads.Proofs.Toml.Quoted
import RequestUploads.Toml.Document

namespace RequestUploads.Toml

/-! ## Lines -/

/-- A value as it is written reads as an item, at the end of its line; it has no blank at its
front. -/
structure ReadsAs (value : List Char) (item : Item) : Prop where
  begins : ∀ c ∈ (value ++ ['\n']).head?, isSpace c = false
  reads : ∀ rest, value? deepest (value ++ '\n' :: rest) = some (item, '\n' :: rest)

def IsPlainKey (key : String) : Prop :=
  key.toList ≠ [] ∧ key.toList.all isKeyChar = true

instance (key : String) : Decidable (IsPlainKey key) := inferInstanceAs (Decidable (_ ∧ _))

structure Line where
  key : String
  value : List Char
  item : Item
  plain : IsPlainKey key
  readsAs : ReadsAs value item

namespace Line

def text (line : Line) : List Char := line.key.toList ++ " = ".toList ++ line.value ++ ['\n']

def entry (line : Line) : String × Item := (line.key, line.item)

end Line

/-! ## Reading a line -/

theorem skipSpace_of_head? {s : List Char} (begins : ∀ c ∈ s.head?, isSpace c = false) :
    skipSpace s = s := by
  cases s with
  | nil => rfl
  | cons c s => simp [skipSpace, begins c rfl]

theorem skipSpace_space (s : List Char) : skipSpace (' ' :: s) = skipSpace s := by
  simp [skipSpace, isSpace]

theorem not_mem_of_isKeyChar {c : Char} (isKey : isKeyChar c = true) :
    c ∉ [' ', '\t', '\n', '\r', '#', '[', '"', '\'', '\uFEFF'] := by
  intro member
  simp only [List.mem_cons, List.not_mem_nil, or_false] at member
  rcases member with rfl | rfl | rfl | rfl | rfl | rfl | rfl | rfl | rfl <;>
    exact absurd isKey (by decide)

theorem IsPlainKey.isKeyChar {key : String} (plain : IsPlainKey key) :
    ∀ c ∈ key.toList, Toml.isKeyChar c = true :=
  List.all_eq_true.1 plain.2

theorem IsPlainKey.exists_cons {key : String} (plain : IsPlainKey key) :
    ∃ c cs, key.toList = c :: cs ∧ Toml.isKeyChar c = true := by
  obtain ⟨c, cs, same⟩ := List.exists_cons_of_ne_nil plain.1
  exact ⟨c, cs, same, plain.isKeyChar c (by simp [same])⟩

theorem simpleKey?_of_plain {key : String} (plain : IsPlainKey key) (s : List Char) :
    simpleKey? (key.toList ++ ' ' :: s) = some (key, ' ' :: s) := by
  obtain ⟨c, cs, same, isKey⟩ := plain.exists_cons
  have other := not_mem_of_isKeyChar isKey
  have notQuoted : ¬((key.toList ++ ' ' :: s).head? = some '"' ∨
      (key.toList ++ ' ' :: s).head? = some '\'') := by
    simp only [same, List.cons_append, List.head?_cons, Option.some.injEq]
    simp only [List.mem_cons, not_or] at other
    tauto
  have stops : isKeyChar ' ' = false := by decide
  have taken : (key.toList ++ ' ' :: s).takeWhile isKeyChar = key.toList := by
    rw [List.takeWhile_append_of_pos plain.isKeyChar, List.takeWhile_cons_of_neg (by simp [stops]),
      List.append_nil]
  have dropped : (key.toList ++ ' ' :: s).dropWhile isKeyChar = ' ' :: s := by
    rw [List.dropWhile_append_of_pos plain.isKeyChar, List.dropWhile_cons_of_neg (by simp [stops])]
  rw [simpleKey?, if_neg notQuoted, taken, dropped, if_neg (by simp [plain.1]),
    String.ofList_toList]

theorem key?_of_plain {key : String} (plain : IsPlainKey key) (s : List Char) :
    key? (key.toList ++ ' ' :: '=' :: s) = some ([], key, '=' :: s) := by
  obtain ⟨c, cs, same, isKey⟩ := plain.exists_cons
  have begins : skipSpace (key.toList ++ ' ' :: '=' :: s) = key.toList ++ ' ' :: '=' :: s := by
    apply skipSpace_of_head?
    simp only [same, List.cons_append, List.head?_cons, Option.mem_def, Option.some.injEq]
    rintro _ rfl
    have := not_mem_of_isKeyChar isKey
    simp_all [isSpace]
  have equals : skipSpace (' ' :: '=' :: s) = '=' :: s := by
    rw [skipSpace_space, skipSpace_of_head? (by simp [isSpace])]
  rw [key?, dottedKey?, begins, simpleKey?_of_plain plain]
  simp [equals]

theorem putNew?_of_new {key : String} {entries : Entries} (new : key ∉ entries.map (·.1))
    (item : Item) : entries.putNew? key item = some (entries ++ [(key, item)]) := by
  unfold Entries.putNew?
  induction entries with
  | nil => rfl
  | cons entry entries ih =>
      simp only [List.map_cons, List.mem_cons, not_or] at new
      rw [Entries.alter?, if_neg (Ne.symm new.1), ih new.2]
      rfl

namespace Line

theorem keyValue?_text (line : Line) (s : List Char) :
    keyValue? (value? deepest) (line.text ++ s) = some (([], line.key, line.item), '\n' :: s) := by
  have text : line.text ++ s =
      line.key.toList ++ ' ' :: '=' :: ' ' :: (line.value ++ '\n' :: s) := by
    simp [Line.text]
  have begins : skipSpace (' ' :: (line.value ++ '\n' :: s)) = line.value ++ '\n' :: s := by
    rw [skipSpace_space, skipSpace_of_head?]
    simpa using line.readsAs.begins
  rw [text, keyValue?, key?_of_plain line.plain]
  simp [begins, line.readsAs.reads]

theorem line?_text (line : Line) {entries : Entries} (new : line.key ∉ entries.map (·.1))
    (s : List Char) :
    Reader.line? ⟨entries, []⟩ (line.text ++ s) = some (⟨entries ++ [line.entry], []⟩, s) := by
  obtain ⟨c, cs, same, isKey⟩ := line.plain.exists_cons
  have other := not_mem_of_isKeyChar isKey
  simp only [List.mem_cons, not_or] at other
  obtain ⟨rest, front⟩ : ∃ rest, line.text ++ s = c :: rest := by simp [Line.text, same]
  have begins : skipSpace (c :: rest) = c :: rest := by
    apply skipSpace_of_head?
    simp [isSpace, other]
  have goesOn : endLine false (c :: rest) = none := by
    simp [endLine, isSpace, other]
  have reads := line.keyValue?_text s
  rw [front] at reads ⊢
  unfold Reader.line?
  rw [begins]
  simp [other, goesOn, reads, Reader.define?, Entries.descend?, Entries.defineItem,
    putNew?_of_new new, endLine, Line.entry]

theorem exists_text (line : Line) (s : List Char) :
    ∃ c rest, line.text ++ s = c :: rest ∧ isKeyChar c = true := by
  obtain ⟨c, cs, same, isKey⟩ := line.plain.exists_cons
  refine ⟨c, cs ++ " = ".toList ++ line.value ++ ['\n'] ++ s, ?_, isKey⟩
  simp only [text, same, List.cons_append]

end Line

/-! ## Reading a document -/

theorem lines?_of_line? {r next : Reader} {s rest : List Char} (nonempty : s ≠ [])
    (read : r.line? s = some (next, rest)) (fuel : Nat) :
    Reader.lines? (fuel + 1) r s = Reader.lines? fuel next rest := by
  obtain ⟨c, cs, rfl⟩ := List.exists_cons_of_ne_nil nonempty
  rw [Reader.lines?, read]
  · rfl
  · simp

theorem lines?_lines (lines : List Line) (entries : Entries)
    (distinct : (entries.map (·.1) ++ lines.map (·.key)).Nodup) {fuel : Nat}
    (enough : lines.length ≤ fuel) :
    Reader.lines? fuel ⟨entries, []⟩ (lines.flatMap Line.text) =
      some ⟨entries ++ lines.map Line.entry, []⟩ := by
  induction lines generalizing entries fuel with
  | nil => simp [Reader.lines?]
  | cons line lines ih =>
      obtain ⟨fuel, rfl⟩ := Nat.exists_eq_add_of_le' (Nat.one_le_of_lt enough)
      have new : line.key ∉ entries.map (·.1) := fun member =>
        (List.nodup_append.1 distinct).2.2 _ member _ (by simp) rfl
      have others : ((entries ++ [line.entry]).map (·.1) ++ lines.map (·.key)).Nodup := by
        simpa [Line.entry] using distinct
      obtain ⟨c, cs, written, -⟩ := line.exists_text (lines.flatMap Line.text)
      rw [List.flatMap_cons, lines?_of_line? (by simp [written]) (line.line?_text new _),
        ih _ others (Nat.le_of_succ_le_succ enough)]
      simp

theorem length_le_flatMap_text (lines : List Line) :
    lines.length ≤ (lines.flatMap Line.text).length := by
  induction lines with
  | nil => simp
  | cons line lines ih =>
      obtain ⟨c, cs, written, -⟩ := line.exists_text []
      rw [List.append_nil] at written
      simp only [List.flatMap_cons, List.length_append, List.length_cons, written]
      omega

theorem parse_lines {lines : List Line} (distinct : (lines.map (·.key)).Nodup) :
    parse (lines.flatMap Line.text) = some (lines.map Line.entry) := by
  have length := length_le_flatMap_text lines
  have read := lines?_lines lines [] (by simpa using distinct) (Nat.le_succ_of_le length)
  cases lines with
  | nil => rfl
  | cons line lines =>
      obtain ⟨c, cs, written, isKey⟩ := line.exists_text (lines.flatMap Line.text)
      have notMark : c ≠ '\uFEFF' := fun same => not_mem_of_isKeyChar isKey (by simp [same])
      rw [List.flatMap_cons, written] at read ⊢
      unfold parse
      split
      · rename_i same
        exact absurd (List.cons.inj same).1 notMark
      · change (Reader.lines? ((c :: cs).length + 1) ⟨[], []⟩ (c :: cs)).map (·.entries) = _
        rw [read]
        rfl

/-! ## Values -/

theorem exists_write (s : List Char) :
    ∃ c rest, Quoted.write s = c :: rest ∧ (c = '"' ∨ c = '\'') := by
  simp only [Quoted.write]
  split_ifs
  all_goals first
    | exact ⟨'"', _, rfl, .inl rfl⟩
    | exact ⟨'\'', _, rfl, .inr rfl⟩

theorem readsAs_write (content : String) :
    ReadsAs (Quoted.write content.toList) (.text content) := by
  obtain ⟨c, cs, written, isMark⟩ := exists_write content.toList
  constructor
  · rw [written]
    rcases isMark with rfl | rfl <;> simp [isSpace]
  · intro rest
    have reads : Quoted.read? (Quoted.write content.toList ++ '\n' :: rest) =
        some (content.toList, '\n' :: rest) :=
      Quoted.read?_write content.toList (by simp) (by simp)
    rw [written] at reads ⊢
    rw [List.cons_append] at reads ⊢
    unfold value?
    simp [isMark, reads]

theorem scalar?_flag (value : Bool) (rest : List Char) :
    scalar? ((if value then "true" else "false").toList ++ '\n' :: rest) =
      some (.flag value, '\n' :: rest) := by
  have stops : ¬Scalar.isChar '\n' = true := by decide
  have each : ∀ c ∈ (if value then "true" else "false").toList, Scalar.isChar c = true := by
    apply List.all_eq_true.1
    cases value <;> decide
  unfold scalar?
  rw [List.takeWhile_append_of_pos each, List.takeWhile_cons_of_neg stops, List.append_nil,
    List.dropWhile_append_of_pos each, List.dropWhile_cons_of_neg stops]
  cases value <;> simp

theorem value?_eq_scalar? {c : Char} (bare : c ∉ ['"', '\'', '[', '\x7b']) (depth : Nat)
    (s : List Char) : value? (depth + 1) (c :: s) = scalar? (c :: s) := by
  simp only [List.mem_cons, not_or] at bare
  simp [value?, bare]

theorem readsAs_flag (value : Bool) :
    ReadsAs (if value then "true" else "false").toList (.flag value) := by
  constructor
  · cases value <;> simp [isSpace]
  · intro rest
    rw [← scalar?_flag]
    cases value <;> exact value?_eq_scalar? (by decide) _ _

end RequestUploads.Toml
