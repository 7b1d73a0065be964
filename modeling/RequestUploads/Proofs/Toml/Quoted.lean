import Mathlib.Tactic.IntervalCases
import RequestUploads.Proofs.Results
import RequestUploads.Toml.Quoted

namespace RequestUploads.Toml.Quoted

/-! ## The grammar -/

namespace Quoting

def closing (q : Quoting) : List Char := if q.long then [q.mark, q.mark, q.mark] else [q.mark]

/-- How many marks in a row may be text. -/
def allowed (q : Quoting) : Nat := if q.long then 2 else 0

theorem long_of_allowed {q : Quoting} {marks : Nat} (more : marks < q.allowed) :
    q.long = true := by
  by_contra short
  simp [allowed, short] at more

theorem allowed_le_two (q : Quoting) : q.allowed ≤ 2 := by
  unfold allowed
  split <;> omega

end Quoting

/-- What stands in a string after `marks` marks in a row that are text, and the text that it stands
for. -/
inductive Written (q : Quoting) : (marks : Nat) → (written text : List Char) → Prop
  | done {marks : Nat} : Written q marks [] []
  | mark {marks : Nat} {written text : List Char} : marks < q.allowed →
      Written q (marks + 1) written text → Written q marks (q.mark :: written) (q.mark :: text)
  | plain {marks : Nat} {c : Char} {written text : List Char} : c ≠ q.mark →
      ¬(c = '\\' ∧ q.mark = '"') → (isPlain c = true ∨ q.long = true ∧ c = '\n') →
      Written q 0 written text → Written q marks (c :: written) (c :: text)
  | escape {marks : Nat} {c : Char} {written text : List Char} : q.mark = '"' → c.toNat < 0x80 →
      Written q 0 written text → Written q marks (Quoted.escape c ++ written) (c :: text)

/-! ## Reading -/

section
variable {q : Quoting} {marks : Nat}

theorem run_of_next {mode next : Mode} {c : Char} {out : List Char}
    (goes : step q mode c = some (.next next out)) (s : List Char) :
    run q mode (c :: s) = (run q next s).map fun (text, rest) => (out ++ text, rest) := by
  rw [run, goes]

theorem plainStep_of_plain {c : Char} (notEscape : ¬(c = '\\' ∧ q.mark = '"'))
    (plain : isPlain c = true ∨ q.long = true ∧ c = '\n') (before : List Char) :
    plainStep q before c = some (.next (.plain 0) (before ++ [c])) := by
  rw [plainStep, if_neg notEscape]
  rcases plain with plain | ⟨long, rfl⟩
  · rw [if_pos plain]
  · rw [if_neg (by decide), if_pos ⟨long, rfl⟩]

theorem step_plain {c : Char} (few : marks ≤ q.allowed) (notMark : c ≠ q.mark) :
    step q (.plain marks) c = plainStep q (List.replicate marks q.mark) c := by
  have := q.allowed_le_two
  rw [step, if_neg notMark, if_neg (by omega)]

theorem step_mark (more : marks < q.allowed) :
    step q (.plain marks) q.mark = some (.next (.plain (marks + 1)) []) := by
  have := q.allowed_le_two
  rw [step, if_pos rfl, markStep, if_neg (by simp [Quoting.long_of_allowed more]),
    if_neg (by omega)]

theorem run_closing (few : marks ≤ q.allowed) {rest : List Char}
    (ends : rest.head? ≠ some q.mark) :
    run q (.plain marks) (q.closing ++ rest) = some (List.replicate marks q.mark, rest) := by
  obtain ⟨mark, long⟩ := q
  cases long with
  | false =>
      obtain rfl : marks = 0 := by simpa [Quoting.allowed] using few
      simp [Quoting.closing, run, step, markStep]
  | true =>
      have two : marks ≤ 2 := by simpa [Quoting.allowed] using few
      cases rest with
      | nil => interval_cases marks <;> simp [Quoting.closing, run, step, markStep]
      | cons c rest =>
          have notMark : c ≠ mark := by simpa using ends
          interval_cases marks <;> simp [Quoting.closing, run, step, markStep, notMark]

/-! ### Escapes -/

theorem run_code {a b : Nat} (low : 16 * a + b < 0x80) (digit : b < 16) (s : List Char) :
    run q (.code 4 0) ('0' :: '0' :: Ascii.capitalHexDigit a :: Ascii.capitalHexDigit b :: s) =
      (run q (.plain 0) s).map fun (text, rest) => (Char.ofNat (16 * a + b) :: text, rest) := by
  have zero : Ascii.hexValue? '0' = some 0 := by decide
  have high := Ascii.hexValue?_capitalHexDigit a (by omega)
  have last := Ascii.hexValue?_capitalHexDigit b digit
  have valid : (16 * a + b).isValidChar := .inl (by omega)
  have first : step q (.code 4 0) '0' = some (.next (.code 3 0) []) := by simp [step, zero]
  have second : step q (.code 3 0) '0' = some (.next (.code 2 0) []) := by simp [step, zero]
  have third : step q (.code 2 0) (Ascii.capitalHexDigit a) = some (.next (.code 1 a) []) := by
    simp [step, high]
  have fourth : step q (.code 1 a) (Ascii.capitalHexDigit b) =
      some (.next (.plain 0) [Char.ofNat (16 * a + b)]) := by
    simp [step, last, valid]
  rw [run_of_next first, run_of_next second, run_of_next third, run_of_next fourth]
  simp [Function.comp_def]

theorem run_escape (isQuotation : q.mark = '"') (few : marks ≤ q.allowed) {c : Char}
    (low : c.toNat < 0x80) (s : List Char) :
    run q (.plain marks) (escape c ++ s) =
      (run q (.plain 0) s).map fun (text, rest) =>
        (List.replicate marks q.mark ++ c :: text, rest) := by
  have begins : step q (.plain marks) '\\' =
      some (.next .escape (List.replicate marks q.mark)) := by
    rw [step_plain few (by rw [isQuotation]; decide), plainStep, if_pos ⟨rfl, isQuotation⟩]
  have named {d : Char} (stands : escaped? d = some c) (s : List Char) :
      run q (.plain marks) ('\\' :: d :: s) =
        (run q (.plain 0) s).map fun (text, rest) =>
          (List.replicate marks q.mark ++ c :: text, rest) := by
    have goes : step q .escape d = some (.next (.plain 0) [c]) := by rw [step, stands]
    rw [run_of_next begins, run_of_next goes]
    simp [Function.comp_def]
  unfold escape
  split
  any_goals exact named rfl s
  · have goes : step q .escape 'u' = some (.next (.code 4 0) []) := by simp [step, escaped?]
    have value : 16 * (c.toNat / 16) + c.toNat % 16 = c.toNat := Nat.div_add_mod _ _
    have code := run_code (q := q) (a := c.toNat / 16) (b := c.toNat % 16) (by omega) (by omega) s
    rw [value, Char.ofNat_toNat] at code
    rw [List.cons_append, run_of_next begins, List.cons_append, run_of_next goes]
    simp [code, Function.comp_def]

/-! ### Whole strings -/

theorem run_of_written {written text : List Char} (grammar : Written q marks written text)
    (few : marks ≤ q.allowed) {rest : List Char} (ends : rest.head? ≠ some q.mark) :
    run q (.plain marks) (written ++ (q.closing ++ rest)) =
      some (List.replicate marks q.mark ++ text, rest) := by
  induction grammar with
  | done => rw [List.nil_append, run_closing few ends, List.append_nil]
  | mark more _ ih =>
      rw [List.cons_append, run_of_next (step_mark more), ih more, List.replicate_succ']
      simp
  | plain notMark notEscape plain _ ih =>
      have goes := (step_plain few notMark).trans (plainStep_of_plain notEscape plain _)
      rw [List.cons_append, run_of_next goes, ih (Nat.zero_le _)]
      simp
  | escape isQuotation low _ ih =>
      rw [List.append_assoc, run_escape isQuotation few low, ih (Nat.zero_le _)]
      simp

end

/-! ### Marks -/

theorem exists_escape (c : Char) : ∃ letters, escape c = '\\' :: letters := by
  unfold escape
  split <;> exact ⟨_, rfl⟩

theorem Written.head?_ne_mark {q : Quoting} {marks : Nat} {written text : List Char}
    (grammar : Written q marks written text) (short : q.long = false) :
    written.head? ≠ some q.mark := by
  cases grammar with
  | done => simp
  | mark more _ => simp [Quoting.allowed, short] at more
  | plain notMark _ _ _ => simpa using notMark
  | @escape _ c _ _ isQuotation _ _ =>
      obtain ⟨letters, same⟩ := exists_escape c
      simp [same, isQuotation]

theorem dropLineEnd_cons {c : Char} (notLineFeed : c ≠ '\n') (notReturn : c ≠ '\r')
    (s : List Char) : dropLineEnd (c :: s) = c :: s := by
  unfold dropLineEnd
  split
  · rename_i same
    exact absurd (List.cons.inj same).1 notLineFeed
  · rename_i same
    exact absurd (List.cons.inj same).1 notReturn
  · rfl

theorem Written.dropLineEnd_eq_self {q : Quoting} {marks : Nat} {written text : List Char}
    (grammar : Written q marks written text) (isMark : q.mark = '"' ∨ q.mark = '\'')
    (oneLine : '\n' ∉ text) (s : List Char) :
    dropLineEnd (written ++ q.mark :: s) = written ++ q.mark :: s := by
  have mark (s : List Char) : dropLineEnd (q.mark :: s) = q.mark :: s := by
    rcases isMark with isMark | isMark <;> rw [isMark] <;> rfl
  cases grammar with
  | done => exact mark s
  | mark _ _ => exact mark _
  | @plain _ c _ text _ _ plain _ =>
      have notLineFeed : c ≠ '\n' := fun same => oneLine (by simp [same])
      apply dropLineEnd_cons notLineFeed
      rintro rfl
      rcases plain with plain | ⟨-, same⟩
      · exact absurd plain (by decide)
      · exact absurd same (by decide)
  | @escape _ c _ _ _ _ _ =>
      obtain ⟨letters, same⟩ := exists_escape c
      rw [same]
      exact dropLineEnd_cons (by decide) (by decide) _

section
variable {mark : Char} {written text rest : List Char} (isMark : mark = '"' ∨ mark = '\'')
  (ends : rest.head? ≠ some mark)
include isMark

theorem read?_eq_between? (s : List Char) : read? (mark :: s) = between? mark (mark :: s) := by
  rcases isMark with rfl | rfl <;> rfl

include ends

theorem read?_short (grammar : Written ⟨mark, false⟩ 0 written text) :
    read? (mark :: written ++ [mark] ++ rest) = some (text, rest) := by
  have one : ¬[mark] <+: rest := by
    intro one
    obtain ⟨later, rfl⟩ := one
    exact ends rfl
  have three : ¬[mark, mark, mark] <+: mark :: (written ++ ([mark] ++ rest)) := by
    have notMark := grammar.head?_ne_mark rfl
    intro three
    have two := (List.cons_prefix_cons.1 three).2
    cases written with
    | nil => exact one (List.cons_prefix_cons.1 two).2
    | cons c written => exact notMark (congrArg some (List.cons_prefix_cons.1 two).1.symm)
  rw [List.append_assoc, List.cons_append, read?_eq_between? isMark, between?,
    if_neg (mt List.isPrefixOf_iff_prefix.1 three)]
  exact run_of_written grammar (Nat.zero_le _) ends

theorem read?_long (grammar : Written ⟨mark, true⟩ 0 written text) :
    read? ([mark, mark, mark] ++ opening text ++ written ++ [mark, mark, mark] ++ rest) =
      some (text, rest) := by
  have drops : dropLineEnd (opening text ++ (written ++ ([mark, mark, mark] ++ rest))) =
      written ++ ([mark, mark, mark] ++ rest) := by
    by_cases several : '\n' ∈ text
    · simp [opening, several, dropLineEnd]
    · have noOpening : opening text = [] := by simp [opening, several]
      rw [noOpening]
      exact grammar.dropLineEnd_eq_self isMark several _
  simp only [List.append_assoc]
  rw [List.cons_append, read?_eq_between? isMark, between?, if_pos (by simp)]
  change run _ _ (dropLineEnd (opening text ++ (written ++ ([mark, mark, mark] ++ rest)))) = _
  rw [drops]
  exact run_of_written grammar (Nat.zero_le _) ends

end

/-! ## Writing -/

theorem low_of_not_isPlain {c : Char} (control : isPlain c = false) : c.toNat < 0x80 := by
  by_contra high
  simp only [isPlain, Bool.or_eq_false_iff, Bool.and_eq_false_imp, decide_eq_true_eq,
    decide_eq_false_iff_not, not_not] at control
  have := control.2 (by omega)
  omega

theorem low_of_isEscaped {long : Bool} {marks : Nat} {c : Char}
    (escaped : isEscaped long marks c = true) : c.toNat < 0x80 := by
  by_cases plain : isPlain c = true
  · have named : c = '"' ∨ c = '\n' ∨ c = '\\' ∨ c = '\t' := by
      unfold isEscaped at escaped
      split_ifs at escaped with isQuotation isLineFeed
      · exact .inl isQuotation
      · exact .inr (.inl isLineFeed)
      · exact .inr (.inr (by simpa [needsEscape, plain] using escaped))
    rcases named with rfl | rfl | rfl | rfl <;> decide
  · exact low_of_not_isPlain (Bool.eq_false_iff.2 plain)

theorem isPlain_or_of_kept {c : Char} (kept : ¬needsEscape c = true) :
    isPlain c = true ∨ c = '\n' := by
  rw [needsEscape, Bool.and_eq_true, not_and_or] at kept
  simpa using kept

theorem written_escapeText (long : Bool) (marks : Nat) (s : List Char) :
    Written ⟨'"', long⟩ marks (escapeText long marks s) s := by
  induction s generalizing marks with
  | nil => exact .done
  | cons c s ih =>
      by_cases escaped : isEscaped long marks c = true
      · rw [escapeText, if_pos escaped]
        exact .escape rfl (low_of_isEscaped escaped) (ih 0)
      · rw [escapeText, if_neg escaped]
        by_cases isQuotation : c = '"'
        · subst isQuotation
          simp only [isEscaped, if_true, Bool.or_eq_true, Bool.not_eq_true', decide_eq_true_eq,
            not_or, Bool.not_eq_false, Nat.not_le] at escaped
          have more : marks < (Quoting.mk '"' long).allowed := by
            simpa [Quoting.allowed, escaped.1] using escaped.2
          exact .mark more (ih (marks + 1))
        · rw [if_neg isQuotation]
          simp only [isEscaped, if_neg isQuotation] at escaped
          split_ifs at escaped with isLineFeed
          · have several : long = true := by simpa using escaped
            exact .plain isQuotation (by simp [isLineFeed]) (.inr ⟨several, isLineFeed⟩) (ih 0)
          · simp only [Bool.or_eq_true, decide_eq_true_eq, not_or] at escaped
            obtain ⟨⟨notBackslash, -⟩, kept⟩ := escaped
            have plain := (isPlain_or_of_kept kept).resolve_right isLineFeed
            exact .plain isQuotation (by simp [notBackslash]) (.inl plain) (ih 0)

theorem le_longestRun (c : Char) (run : Nat) (s : List Char) : run ≤ longestRun c run s := by
  induction s generalizing run with
  | nil => exact Nat.le_refl _
  | cons d s ih =>
      rw [longestRun]
      split
      · exact Nat.le_of_succ_le (ih (run + 1))
      · exact Nat.le_max_left _ _

theorem written_self {long : Bool} {marks : Nat} {s : List Char}
    (plain : ∀ c ∈ s, isPlain c = true ∨ long = true ∧ c = '\n')
    (few : longestRun '\'' marks s ≤ (Quoting.mk '\'' long).allowed) :
    Written ⟨'\'', long⟩ marks s s := by
  induction s generalizing marks with
  | nil => exact .done
  | cons c s ih =>
      have others := fun d member => plain d (List.mem_cons_of_mem c member)
      rw [longestRun] at few
      split_ifs at few with isMark
      · subst isMark
        have more : marks + 1 ≤ _ := (le_longestRun '\'' (marks + 1) s).trans few
        exact .mark more (ih others few)
      · exact .plain isMark (by simp) (plain c (by simp))
          (ih others ((Nat.le_max_right _ _).trans few))

theorem written_line {s : List Char} (kept : s.any needsEscape = false)
    (noMark : longestRun '\'' 0 s = 0) (oneLine : s.contains '\n' = false) :
    Written ⟨'\'', false⟩ 0 s s := by
  refine written_self (fun c member => .inl ?_) noMark.le
  refine (isPlain_or_of_kept (List.any_eq_false.1 kept c member)).resolve_right ?_
  rintro rfl
  simp [member] at oneLine

theorem written_lines {s : List Char} (kept : s.any needsEscape = false)
    (few : longestRun '\'' 0 s ≤ 2) : Written ⟨'\'', true⟩ 0 s s := by
  refine written_self (fun c member => ?_) few
  exact (isPlain_or_of_kept (List.any_eq_false.1 kept c member)).imp_right fun same => ⟨rfl, same⟩

theorem read?_write (s : List Char) {rest : List Char} (quotation : rest.head? ≠ some '"')
    (apostrophe : rest.head? ≠ some '\'') : read? (write s ++ rest) = some (s, rest) := by
  have basic := read?_short (.inl rfl) quotation (written_escapeText false 0 s)
  have longBasic := read?_long (.inl rfl) quotation (written_escapeText true 0 s)
  simp only [write]
  split_ifs with isBasic isLiteral isLongBasic isLongLiteral several
  · exact basic
  · simp only [Bool.and_eq_true, Bool.not_eq_true', decide_eq_true_eq] at isLiteral
    obtain ⟨⟨kept, noMark⟩, oneLine⟩ := isLiteral
    exact read?_short (.inr rfl) apostrophe (written_line kept noMark oneLine)
  · exact longBasic
  · simp only [Bool.and_eq_true, Bool.not_eq_true', decide_eq_true_eq] at isLongLiteral
    exact read?_long (.inr rfl) apostrophe (written_lines isLongLiteral.1 isLongLiteral.2)
  · exact longBasic
  · exact basic

end RequestUploads.Toml.Quoted
