import RequestUploads.Proofs.Results
import RequestUploads.Proofs.Text
import RequestUploads.Uri.Parse

namespace RequestUploads
open Results

theorem Scheme.toNat_of_isChar {c : Char} (isChar : Scheme.isChar c = true) :
    0x20 < c.toNat ∧ c.toNat < 0x80 := by
  simp only [Scheme.isChar, Char.isAlphanum, Bool.or_eq_true, decide_eq_true_eq] at isChar
  rcases isChar with (((letter | digit) | rfl) | rfl) | rfl
  · rcases (Bool.or_eq_true _ _).mp letter with capital | small
    · exact Ascii.toNat_of_range 'A' 'Z' (of_decide_eq_true capital) (by decide) (by decide)
    · obtain ⟨low, high⟩ := (Bool.and_eq_true _ _).mp small
      have range : 'a' ≤ c ∧ c ≤ 'z' := ⟨of_decide_eq_true low, of_decide_eq_true high⟩
      exact Ascii.toNat_of_range 'a' 'z' range (by decide) (by decide)
  · obtain ⟨low, high⟩ := (Bool.and_eq_true _ _).mp digit
    have range : '0' ≤ c ∧ c ≤ '9' := ⟨of_decide_eq_true low, of_decide_eq_true high⟩
    exact Ascii.toNat_of_range '0' '9' range (by decide) (by decide)
  · decide
  · decide
  · decide

theorem Scheme.isBlank_of_isChar {c : Char} (isChar : Scheme.isChar c = true) :
    Blank.isBlank c = false := by
  obtain ⟨low, high⟩ := Scheme.toNat_of_isChar isChar
  exact Blank.isBlank_of_ascii low high

theorem Ascii.toLower_eq_colon {c : Char} (colon : c.toLower = ':') : c = ':' := by
  unfold Char.toLower at colon
  split_ifs at colon with capital
  · have value : (c.val + 32).toNat = 58 := congrArg Char.toNat colon
    have low : 65 ≤ c.val.toNat := capital.1
    have high : c.val.toNat ≤ 90 := capital.2
    have thirtyTwo : (32 : UInt32).toNat = 32 := rfl
    rw [UInt32.toNat_add] at value
    omega
  · exact colon

theorem Ascii.lower_eq_of_dropIgnoringCase? {name scheme rest s : List Char} (freeName : ':' ∉ name)
    (freeScheme : ':' ∉ scheme)
    (dropped : dropIgnoringCase? (name ++ [':']) (scheme ++ ':' :: rest) = some s) :
    lower scheme = lower name := by
  induction name generalizing scheme with
  | nil =>
      cases scheme with
      | nil => rfl
      | cons c scheme =>
          simp only [List.nil_append, List.cons_append, dropIgnoringCase?] at dropped
          split_ifs at dropped with same
          exact absurd (toLower_eq_colon same.symm) fun colon => freeScheme (by simp [colon])
  | cons n name ih =>
      cases scheme with
      | nil =>
          simp only [List.cons_append, List.nil_append, dropIgnoringCase?] at dropped
          split_ifs at dropped with same
          exact absurd (toLower_eq_colon same) fun colon => freeName (by simp [colon])
      | cons c scheme =>
          simp only [List.cons_append, dropIgnoringCase?] at dropped
          split_ifs at dropped with same
          have later := ih (fun member => freeName (by simp [member]))
            (fun member => freeScheme (by simp [member])) dropped
          rw [lower_cons, lower_cons, same, later]

theorem Ascii.dropIgnoringCase?_eq_none_of_lower_ne {name scheme : List Char}
    (freeName : ':' ∉ name) (freeScheme : ':' ∉ scheme) (differ : lower scheme ≠ lower name)
    (rest : List Char) : dropIgnoringCase? (name ++ [':']) (scheme ++ ':' :: rest) = none :=
  Option.eq_none_iff_forall_ne_some.2 fun _ dropped =>
    differ (lower_eq_of_dropIgnoringCase? freeName freeScheme dropped)

namespace Uri

theorem dropWhile_append_of_stop {p : Char → Bool} {c : Char} (stop : p c = false)
    (s rest : List Char) :
    (s ++ c :: rest).dropWhile p = s.dropWhile p ++ c :: rest := by
  rw [List.dropWhile_append]
  split_ifs with passed
  · simp [List.isEmpty_iff.1 passed, stop]
  · rfl

theorem not_cleaned {c : Char} (visible : 0x20 < c.toNat) :
    (!(['\t', '\n', '\r'].contains c)) = true := by
  have differs {d : Char} (low : d.toNat ≤ 0x20) : c ≠ d := by
    rintro rfl
    exact absurd visible (by omega)
  simp [differs (d := '\t') (by decide), differs (d := '\n') (by decide),
    differs (d := '\r') (by decide)]

theorem clean_scheme {name : List Char} (isScheme : Scheme.IsScheme name) (rest : List Char) :
    ∃ more, clean (name ++ ':' :: rest) = name ++ ':' :: more := by
  have visible : ∀ c ∈ name, 0x20 < c.toNat := fun c member =>
    (Scheme.toNat_of_isChar (Scheme.isChar_of_mem isScheme c member)).1
  have begins : (name ++ ':' :: rest).dropWhile isTrimmed = name ++ ':' :: rest := by
    cases name with
    | nil => exact isScheme.elim
    | cons c s => simp [isTrimmed, visible c (by simp)]
  have kept : name.filter (fun c => !(['\t', '\n', '\r'].contains c)) = name :=
    List.filter_eq_self.2 fun c member => not_cleaned (visible c member)
  refine ⟨((rest.reverse.dropWhile isTrimmed).reverse).filter
    fun c => !(['\t', '\n', '\r'].contains c), ?_⟩
  have colon : isTrimmed ':' = false := by decide
  rw [clean, begins, List.reverse_append, List.reverse_cons, List.append_assoc,
    List.singleton_append, dropWhile_append_of_stop colon, List.reverse_append, List.reverse_cons,
    List.reverse_reverse, List.append_assoc, List.singleton_append, List.filter_append, kept]
  rfl

theorem exists_scheme_of_parse {s : List Char} {uri : Uri} (parses : Uri.parse s = .ok uri) :
    ∃ name rest, Scheme.split? (clean s) = some (name, rest) ∧
      uri.scheme.toList = Ascii.lower name := by
  cases divided : Scheme.split? (clean s) with
  | none => simp [Uri.parse, divided] at parses
  | some parts =>
      refine ⟨parts.1, parts.2, rfl, ?_⟩
      simp only [Uri.parse, divided] at parses
      cases found : hierarchy (Ascii.lower parts.1)
          ((divide parts.2).2.1.isNone && (divide parts.2).2.2.isNone) (divide parts.2).1 with
      | error failure => simp [found] at parses
      | ok rest =>
          simp only [found, ok_bind, pure_eq_ok, Except.ok.injEq] at parses
          rw [← parses, String.toList_ofList]

theorem scheme_of_parse {name rest : List Char} {uri : Uri} (isScheme : Scheme.IsScheme name)
    (parses : Uri.parse (name ++ ':' :: rest) = .ok uri) :
    uri.scheme.toList = Ascii.lower name := by
  obtain ⟨more, cleaned⟩ := clean_scheme isScheme rest
  obtain ⟨front, after, divided, scheme⟩ := exists_scheme_of_parse parses
  rw [cleaned, Scheme.split?_eq_some_iff.2 ⟨isScheme, rfl⟩] at divided
  cases divided
  exact scheme

end Uri

end RequestUploads
