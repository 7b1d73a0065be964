import RequestUploads.Proofs.Text
import RequestUploads.Proofs.Text.Utf8
import RequestUploads.Text.Percent

namespace RequestUploads

/-! ## Hexadecimal digits -/

theorem Ascii.hexValue?_eq_some {c : Char} {n : Nat} (digit : hexValue? c = some n) :
    ('0' ≤ c ∧ c ≤ '9') ∨ ('a' ≤ c ∧ c ≤ 'f') ∨ ('A' ≤ c ∧ c ≤ 'F') := by
  unfold hexValue? at digit
  split at digit
  · exact .inl ‹_›
  · split at digit
    · exact .inr (.inl ‹_›)
    · split at digit
      · exact .inr (.inr ‹_›)
      · cases digit

theorem Ascii.toNat_of_hexValue? {c : Char} {n : Nat} (digit : hexValue? c = some n) :
    0x20 < c.toNat ∧ c.toNat < 0x80 := by
  rcases hexValue?_eq_some digit with range | range | range
  · exact toNat_of_range '0' '9' range (by decide) (by decide)
  · exact toNat_of_range 'a' 'f' range (by decide) (by decide)
  · exact toNat_of_range 'A' 'F' range (by decide) (by decide)

theorem Ascii.hexValue?_lt {c : Char} {n : Nat} (digit : hexValue? c = some n) : n < 16 := by
  have below {first last : Char} (range : first ≤ c ∧ c ≤ last) :
      c.toNat - first.toNat ≤ last.toNat - first.toNat := Nat.sub_le_sub_right range.2 _
  unfold hexValue? at digit
  split_ifs at digit with decimal small capital
  · cases digit
    exact (below decimal).trans_lt (by decide)
  · cases digit
    exact (Nat.add_le_add_right (below small) 10).trans_lt (by decide)
  · cases digit
    exact (Nat.add_le_add_right (below capital) 10).trans_lt (by decide)

namespace Percent

/-- The bytes with escapes that stand for them, each with digits of either case. -/
inductive Escapes : List UInt8 → List Char → Prop
  | nil : Escapes [] []
  | cons {b : UInt8} {bytes : List UInt8} {high low : Char} {s : List Char} :
      Ascii.hexValue? high = some (b.toNat / 16) → Ascii.hexValue? low = some (b.toNat % 16) →
      Escapes bytes s → Escapes (b :: bytes) ('%' :: high :: low :: s)

/-- A text with one that stands for it: the characters that `must` be are escaped, and any others
may be. -/
inductive Encodes (must : Char → Bool) : List Char → List Char → Prop
  | nil : Encodes must [] []
  | plain {c : Char} {s encoded : List Char} :
      must c = false → Encodes must s encoded → Encodes must (c :: s) (c :: encoded)
  | escaped {c : Char} {s escapes encoded : List Char} :
      Escapes (Utf8.encodeChar c) escapes → Encodes must s encoded →
      Encodes must (c :: s) (escapes ++ encoded)

/-! ## Decoding -/

theorem unescape_cons_of_ne {b : UInt8} (plain : b ≠ 0x25) (rest : List UInt8) :
    unescape (b :: rest) = b :: unescape rest := by
  match rest with
  | [] => rfl
  | [c] => simp [unescape]
  | c :: d :: rest => rw [unescape, if_neg plain]

theorem unescape_append_of_not_mem {bytes : List UInt8} (plain : 0x25 ∉ bytes)
    (rest : List UInt8) : unescape (bytes ++ rest) = bytes ++ unescape rest := by
  induction bytes with
  | nil => rfl
  | cons b bytes ih =>
      have differ : b ≠ 0x25 := fun same => plain (by simp [same])
      rw [List.cons_append, unescape_cons_of_ne differ, ih fun member => plain (by simp [member])]
      rfl

theorem percent_not_mem_encodeChar {c : Char} (differ : c ≠ '%') : 0x25 ∉ Utf8.encodeChar c := by
  intro member
  rcases Utf8.mem_encodeChar member with ⟨-, same⟩ | large
  · exact differ (Char.toNat_inj.1 same.symm)
  · exact absurd large (by decide)

theorem digit?_of_hexValue? {c : Char} {n : Nat} (digit : Ascii.hexValue? c = some n) :
    digit? (UInt8.ofNat c.toNat) = some (UInt8.ofNat n) := by
  have small := (Ascii.toNat_of_hexValue? digit).2
  rw [digit?, Utf8.toNat_ofNat (by omega), Char.ofNat_toNat, digit]
  rfl

theorem unescape_of_escapes {bytes : List UInt8} {s : List Char} (escapes : Escapes bytes s)
    (rest : List UInt8) : unescape (Utf8.encode s ++ rest) = bytes ++ unescape rest := by
  induction escapes with
  | nil => rfl
  | @cons b bytes high low s isHigh isLow _ ih =>
      have percent : Utf8.encodeChar '%' = [0x25] := by decide
      have value : 16 * UInt8.ofNat (b.toNat / 16) + UInt8.ofNat (b.toNat % 16) = b := by
        have bound := b.toNat_lt
        have sixteen : (16 : UInt8).toNat = 16 := rfl
        rw [← UInt8.toNat_inj, UInt8.toNat_add, UInt8.toNat_mul, Utf8.toNat_ofNat (by omega),
          Utf8.toNat_ofNat (by omega), sixteen]
        omega
      simp only [Utf8.encode_cons, percent,
        Utf8.encodeChar_ascii (Ascii.toNat_of_hexValue? isHigh).2,
        Utf8.encodeChar_ascii (Ascii.toNat_of_hexValue? isLow).2, List.cons_append, List.nil_append,
        unescape, if_true, digit?_of_hexValue? isHigh,
        digit?_of_hexValue? isLow, value, ih]

theorem unescape_encode_of_encodes {must : Char → Bool} (percent : must '%' = true)
    {s encoded : List Char} (encodes : Encodes must s encoded) :
    unescape (Utf8.encode encoded) = Utf8.encode s := by
  induction encodes with
  | nil => rfl
  | @plain c s encoded free _ ih =>
      have differ : c ≠ '%' := by
        rintro rfl
        rw [percent] at free
        cases free
      rw [Utf8.encode_cons, unescape_append_of_not_mem (percent_not_mem_encodeChar differ), ih,
        Utf8.encode_cons]
  | escaped escapes _ ih =>
      rw [Utf8.encode_append, unescape_of_escapes escapes, ih, Utf8.encode_cons]

theorem decode_of_encodes {must : Char → Bool} (percent : must '%' = true)
    {s encoded : List Char} (encodes : Encodes must s encoded) : decode encoded = s := by
  rw [decode, unescape_encode_of_encodes percent encodes, Utf8.decodeLossy_encode]

theorem decode_append_of_free {front : List Char} (free : '%' ∉ front) (rest : List Char) :
    decode (front ++ rest) = front ++ decode rest := by
  induction front with
  | nil => rfl
  | cons c front ih =>
      have differ : c ≠ '%' := fun same => free (by simp [same])
      have others := ih fun member => free (by simp [member])
      rw [List.cons_append, decode, Utf8.encode_cons,
        unescape_append_of_not_mem (percent_not_mem_encodeChar differ), Utf8.decodeLossy,
        Utf8.scan_encodeChar, List.map_cons, Option.getD_some, List.cons_append, ← others]
      rfl

/-! ## Texts without escapes -/

def HasEscape (s : List Char) : Prop :=
  ∃ before high low after, s = before ++ '%' :: high :: low :: after ∧
    (Ascii.hexValue? high).isSome ∧ (Ascii.hexValue? low).isSome

theorem HasEscape.cons {s : List Char} (escaped : HasEscape s) (c : Char) : HasEscape (c :: s) := by
  obtain ⟨before, high, low, after, rfl, digits⟩ := escaped
  exact ⟨c :: before, high, low, after, rfl, digits⟩

theorem HasEscape.mem {s : List Char} (escaped : HasEscape s) : '%' ∈ s := by
  obtain ⟨before, high, low, after, rfl, -⟩ := escaped
  simp

theorem exists_digit_of_encode {s : List Char} {b n : UInt8} {bytes : List UInt8}
    (begins : Utf8.encode s = b :: bytes) (digit : digit? b = some n) :
    ∃ c later, s = c :: later ∧ (Ascii.hexValue? c).isSome ∧ Utf8.encode later = bytes := by
  obtain ⟨value, isDigit, -⟩ := Option.map_eq_some_iff.1 digit
  have byte := Utf8.toNat_ofNat_byte b
  have small := (Ascii.toNat_of_hexValue? isDigit).2
  cases s with
  | nil => cases begins
  | cons c later =>
      rw [Utf8.encode_cons] at begins
      have member : b ∈ Utf8.encodeChar c := by
        obtain ⟨first, others, bytesOf⟩ := List.exists_cons_of_ne_nil (Utf8.encodeChar_ne_nil c)
        rw [bytesOf] at begins ⊢
        exact (List.cons.inj begins).1 ▸ List.mem_cons_self
      rcases Utf8.mem_encodeChar member with ⟨ascii, same⟩ | large
      · rw [Utf8.encodeChar_ascii ascii] at begins
        rw [same, Char.ofNat_toNat] at isDigit
        exact ⟨c, later, rfl, by simp [isDigit], (List.cons.inj begins).2⟩
      · omega

theorem unescape_percent {bytes : List UInt8}
    (plain : ∀ b c rest, bytes = b :: c :: rest → digit? b = none ∨ digit? c = none) :
    unescape (0x25 :: bytes) = 0x25 :: unescape bytes := by
  match bytes with
  | [] => rfl
  | [b] => rfl
  | b :: c :: rest =>
      rw [unescape, if_pos rfl]
      rcases plain b c rest rfl with noDigit | noDigit
      · rw [noDigit]
      · rw [noDigit]
        cases digit? b <;> rfl

def StartsEscape (s : List Char) : Prop :=
  ∃ high low after, s = '%' :: high :: low :: after ∧
    (Ascii.hexValue? high).isSome ∧ (Ascii.hexValue? low).isSome

theorem StartsEscape.hasEscape {s : List Char} (starts : StartsEscape s) : HasEscape s := by
  obtain ⟨high, low, after, rfl, digits⟩ := starts
  exact ⟨[], high, low, after, rfl, digits⟩

theorem hasEscape_cons {c : Char} {s : List Char} (escaped : HasEscape (c :: s))
    (plain : ¬StartsEscape (c :: s)) : HasEscape s := by
  obtain ⟨before, high, low, after, eq, digits⟩ := escaped
  cases before with
  | nil => exact absurd ⟨high, low, after, eq, digits⟩ plain
  | cons d before => exact ⟨before, high, low, after, (List.cons.inj eq).2, digits⟩

theorem exists_unescape_escape {high low : Char} {m n : Nat}
    (isHigh : Ascii.hexValue? high = some m) (isLow : Ascii.hexValue? low = some n)
    (s : List Char) :
    ∃ b, unescape (Utf8.encode ('%' :: high :: low :: s)) = b :: unescape (Utf8.encode s) := by
  have highBound := Ascii.hexValue?_lt isHigh
  have lowBound := Ascii.hexValue?_lt isLow
  have byte := Utf8.toNat_ofNat (n := 16 * m + n) (by omega)
  have escapes : Escapes [UInt8.ofNat (16 * m + n)] ['%', high, low] :=
    .cons (isHigh.trans (congrArg some (by omega))) (isLow.trans (congrArg some (by omega))) .nil
  have read := unescape_of_escapes escapes (Utf8.encode s)
  rw [← Utf8.encode_append] at read
  exact ⟨_, read⟩

theorem unescape_encode_cons {c : Char} {s : List Char} (plain : ¬StartsEscape (c :: s)) :
    unescape (Utf8.encode (c :: s)) = Utf8.encodeChar c ++ unescape (Utf8.encode s) := by
  rw [Utf8.encode_cons]
  by_cases percent : c = '%'
  · subst percent
    have byte : Utf8.encodeChar '%' = [0x25] := by decide
    rw [byte, List.singleton_append, unescape_percent]
    · rfl
    intro high low rest bytes
    by_contra digits
    rw [not_or] at digits
    obtain ⟨m, isHigh⟩ := Option.ne_none_iff_exists'.1 digits.1
    obtain ⟨n, isLow⟩ := Option.ne_none_iff_exists'.1 digits.2
    obtain ⟨first, others, rfl, isFirst, bytesLeft⟩ := exists_digit_of_encode bytes isHigh
    obtain ⟨second, after, rfl, isSecond, -⟩ := exists_digit_of_encode bytesLeft isLow
    exact plain ⟨first, second, after, rfl, isFirst, isSecond⟩
  · exact unescape_append_of_not_mem (percent_not_mem_encodeChar percent) _

theorem unescape_encode_of_not_hasEscape {s : List Char} (plain : ¬HasEscape s) :
    unescape (Utf8.encode s) = Utf8.encode s := by
  induction s with
  | nil => rfl
  | cons c s ih =>
      rw [unescape_encode_cons fun starts => plain starts.hasEscape,
        ih fun escaped => plain (escaped.cons c), Utf8.encode_cons]

theorem decode_of_not_hasEscape {s : List Char} (plain : ¬HasEscape s) : decode s = s := by
  rw [decode, unescape_encode_of_not_hasEscape plain, Utf8.decodeLossy_encode]

/-! ## Ways to escape -/

theorem escapes_escape (bytes : List UInt8) : Escapes bytes (bytes.flatMap escape) := by
  induction bytes with
  | nil => exact .nil
  | cons b bytes ih =>
      have bound := b.toNat_lt
      exact .cons (Ascii.hexValue?_capitalHexDigit _ (by omega))
        (Ascii.hexValue?_capitalHexDigit _ (by omega)) ih

theorem encodes_encode {must set : Char → Bool} (covers : ∀ c, must c = true → set c = true)
    (s : List Char) : Encodes must s (encode set s) := by
  induction s with
  | nil => exact .nil
  | cons c s ih =>
      rw [encode, List.flatMap_cons]
      split_ifs with chosen
      · exact .escaped (escapes_escape _) ih
      · refine .plain ?_ ih
        rw [← Bool.not_eq_true]
        exact fun escaped => chosen (by simp [covers c escaped])

theorem Encodes.after {must : Char → Bool} {front : List Char}
    (free : ∀ c ∈ front, must c = false) {s encoded : List Char}
    (encodes : Encodes must s encoded) :
    Encodes must (front ++ s) (front ++ encoded) := by
  induction front with
  | nil => exact encodes
  | cons c front ih =>
      exact .plain (free c (by simp)) (ih fun d member => free d (by simp [member]))

/-! ## What an escaped text is made of -/

theorem mem_of_escapes {bytes : List UInt8} {s : List Char} (escapes : Escapes bytes s) {c : Char}
    (member : c ∈ s) : c = '%' ∨ ∃ n, Ascii.hexValue? c = some n := by
  induction escapes with
  | nil => cases member
  | cons isHigh isLow _ ih =>
      simp only [List.mem_cons] at member
      rcases member with rfl | rfl | rfl | later
      · exact .inl rfl
      · exact .inr ⟨_, isHigh⟩
      · exact .inr ⟨_, isLow⟩
      · exact ih later

theorem Encodes.mem {must : Char → Bool} {s encoded : List Char}
    (encodes : Encodes must s encoded) {c : Char} (member : c ∈ encoded) :
    must c = false ∨ c = '%' ∨ ∃ n, Ascii.hexValue? c = some n := by
  induction encodes with
  | nil => cases member
  | plain free _ ih =>
      rcases List.mem_cons.1 member with rfl | later
      · exact .inl free
      · exact ih later
  | escaped escapes _ ih =>
      rcases List.mem_append.1 member with inEscapes | later
      · exact .inr (mem_of_escapes escapes inEscapes)
      · exact ih later

theorem Encodes.ne_nil {must : Char → Bool} {s encoded : List Char}
    (encodes : Encodes must s encoded) (nonempty : s ≠ []) : encoded ≠ [] := by
  cases encodes with
  | nil => exact absurd rfl nonempty
  | plain _ _ => simp
  | @escaped c _ _ _ escapes _ =>
      cases bytes : Utf8.encodeChar c with
      | nil => exact absurd bytes (Utf8.encodeChar_ne_nil c)
      | cons b bytes' =>
          rw [bytes] at escapes
          cases escapes
          simp

end Percent

end RequestUploads
