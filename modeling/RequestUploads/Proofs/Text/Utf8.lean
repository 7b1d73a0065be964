import Mathlib.Tactic.SplitIfs
import RequestUploads.Text.Utf8

namespace RequestUploads.Utf8

/-! ## Steps of the machine -/

theorem toNat_ofNat {n : Nat} (small : n < 256) : (UInt8.ofNat n).toNat = n :=
  UInt8.toNat_ofNat_of_lt' small

theorem toNat_ofNat_byte (b : UInt8) : (Char.ofNat b.toNat).toNat = b.toNat := by
  have bound := b.toNat_lt
  have valid : b.toNat.isValidChar := .inl (by omega)
  rw [Char.ofNat, dif_pos valid]
  rfl

theorem scan_ascii {n : Nat} (small : n < 0x80) (rest : List UInt8) :
    scan none (UInt8.ofNat n :: rest) = some (Char.ofNat n) :: scan none rest := by
  have byte := toNat_ofNat (n := n) (by omega)
  simp [scan, step, start, byte, small]

theorem scan_lead {n : Nat} {pending : Pending} (long : 0x80 ≤ n) (small : n < 256)
    (lead : lead? (UInt8.ofNat n) = some pending) (rest : List UInt8) :
    scan none (UInt8.ofNat n :: rest) = scan (some pending) rest := by
  have byte := toNat_ofNat small
  have notAscii : ¬n < 0x80 := by omega
  simp [scan, step, start, byte, notAscii, lead]

theorem scan_more {bits low high owed n : Nat} (least : low ≤ 0x80 + n) (most : 0x80 + n ≤ high)
    (tail : n < 64) (rest : List UInt8) :
    scan (some ⟨bits, low, high, owed + 1⟩) (UInt8.ofNat (0x80 + n) :: rest) =
      scan (some ⟨bits * 64 + n, 0x80, 0xBF, owed⟩) rest := by
  have byte := toNat_ofNat (n := 0x80 + n) (by omega)
  simp only [scan, step, byte, least, most, and_self, if_true, Nat.add_sub_cancel_left,
    List.nil_append]

theorem scan_last {bits low high n : Nat} (least : low ≤ 0x80 + n) (most : 0x80 + n ≤ high)
    (tail : n < 64) (rest : List UInt8) :
    scan (some ⟨bits, low, high, 0⟩) (UInt8.ofNat (0x80 + n) :: rest) =
      some (Char.ofNat (bits * 64 + n)) :: scan none rest := by
  have byte := toNat_ofNat (n := 0x80 + n) (by omega)
  simp only [scan, step, byte, least, most, and_self, if_true, Nat.add_sub_cancel_left,
    List.cons_append, List.nil_append]

/-! ## What first bytes announce -/

theorem lead?_two : ∀ high < 32, 2 ≤ high →
    lead? (UInt8.ofNat (0xC0 + high)) = some ⟨high, 0x80, 0xBF, 0⟩ := by decide

/-- After `E0` a small next byte would mean a shorter form, after `ED` a large one a surrogate. -/
theorem lead?_three : ∀ high < 16, lead? (UInt8.ofNat (0xE0 + high)) =
    some ⟨high, if high = 0 then 0xA0 else 0x80, if high = 13 then 0x9F else 0xBF, 1⟩ := by decide

/-- After `F0` a small next byte would mean a shorter form, after `F4` a large one no character. -/
theorem lead?_four : ∀ high < 5, lead? (UInt8.ofNat (0xF0 + high)) =
    some ⟨high, if high = 0 then 0x90 else 0x80, if high = 4 then 0x8F else 0xBF, 2⟩ := by decide

/-! ## Characters -/

theorem toNat_lt (c : Char) : c.toNat < 0x110000 := by
  rcases c.valid with low | high
  · exact Nat.lt_trans low (by decide)
  · exact high.2

theorem not_surrogate (c : Char) : c.toNat < 0xD800 ∨ 0xE000 ≤ c.toNat := by
  rcases c.valid with low | high
  · exact .inl low
  · exact .inr high.1

theorem scan_two {n : Nat} (least : 0x80 ≤ n) (most : n < 0x800) (rest : List UInt8) :
    scan none (UInt8.ofNat (0xC0 + n / 64) :: UInt8.ofNat (0x80 + n % 64) :: rest) =
      some (Char.ofNat n) :: scan none rest := by
  rw [scan_lead (by omega) (by omega) (lead?_two (n / 64) (by omega) (by omega)),
    scan_last (by omega) (by omega) (by omega), Nat.div_add_mod']

theorem scan_three {n : Nat} (least : 0x800 ≤ n) (most : n < 0x10000)
    (scalar : n < 0xD800 ∨ 0xE000 ≤ n) (rest : List UInt8) :
    scan none (UInt8.ofNat (0xE0 + n / 4096) :: UInt8.ofNat (0x80 + n / 64 % 64) ::
        UInt8.ofNat (0x80 + n % 64) :: rest) =
      some (Char.ofNat n) :: scan none rest := by
  have bits : n / 4096 * 64 + n / 64 % 64 = n / 64 := by omega
  rw [scan_lead (by omega) (by omega) (lead?_three (n / 4096) (by omega)),
    scan_more (by split <;> omega) (by split <;> omega) (by omega),
    scan_last (by omega) (by omega) (by omega), bits, Nat.div_add_mod']

theorem scan_four {n : Nat} (least : 0x10000 ≤ n) (most : n < 0x110000) (rest : List UInt8) :
    scan none (UInt8.ofNat (0xF0 + n / 262144) :: UInt8.ofNat (0x80 + n / 4096 % 64) ::
        UInt8.ofNat (0x80 + n / 64 % 64) :: UInt8.ofNat (0x80 + n % 64) :: rest) =
      some (Char.ofNat n) :: scan none rest := by
  have bits : (n / 262144 * 64 + n / 4096 % 64) * 64 + n / 64 % 64 = n / 64 := by omega
  rw [scan_lead (by omega) (by omega) (lead?_four (n / 262144) (by omega)),
    scan_more (by split <;> omega) (by split <;> omega) (by omega),
    scan_more (by omega) (by omega) (by omega),
    scan_last (by omega) (by omega) (by omega), bits, Nat.div_add_mod']

theorem scan_encodeChar (c : Char) (rest : List UInt8) :
    scan none (encodeChar c ++ rest) = some c :: scan none rest := by
  have same : Char.ofNat c.toNat = c := Char.ofNat_toNat c
  unfold encodeChar
  dsimp only
  split_ifs with one two three
  · exact (scan_ascii one rest).trans (by rw [same])
  · exact (scan_two (by omega) two rest).trans (by rw [same])
  · exact (scan_three (by omega) three (not_surrogate c) rest).trans (by rw [same])
  · exact (scan_four (by omega) (toNat_lt c) rest).trans (by rw [same])

theorem encodeChar_ascii {c : Char} (small : c.toNat < 0x80) :
    encodeChar c = [UInt8.ofNat c.toNat] := by
  simp [encodeChar, small]

theorem encodeChar_ne_nil (c : Char) : encodeChar c ≠ [] := by
  unfold encodeChar
  dsimp only
  split_ifs <;> simp

/-- Only characters of ASCII have a byte of ASCII, and it is the only one they have. -/
theorem mem_encodeChar {c : Char} {b : UInt8} (member : b ∈ encodeChar c) :
    (c.toNat < 0x80 ∧ b.toNat = c.toNat) ∨ 0x80 ≤ b.toNat := by
  have bound := toNat_lt c
  have large {n : Nat} (least : 0x80 ≤ n) (small : n < 256) : 0x80 ≤ (UInt8.ofNat n).toNat := by
    rwa [toNat_ofNat small]
  unfold encodeChar at member
  dsimp only at member
  split_ifs at member with one two three
  · rw [List.mem_singleton.1 member]
    exact .inl ⟨one, toNat_ofNat (by omega)⟩
  all_goals
    simp only [List.mem_cons, List.not_mem_nil, or_false] at member
    right
  · rcases member with rfl | rfl <;> exact large (by omega) (by omega)
  · rcases member with rfl | rfl | rfl <;> exact large (by omega) (by omega)
  · rcases member with rfl | rfl | rfl | rfl <;> exact large (by omega) (by omega)

/-! ## Texts -/

theorem scan_encode (s : List Char) : scan none (encode s) = s.map some := by
  induction s with
  | nil => rfl
  | cons c s ih => rw [encode_cons, scan_encodeChar, ih, List.map_cons]

theorem decodeLossy_encode (s : List Char) : decodeLossy (encode s) = s := by
  simp [decodeLossy, scan_encode, Function.comp_def]

theorem decode?_encode (s : List Char) : decode? (encode s) = some s := by
  rw [decode?, scan_encode]
  induction s with
  | nil => rfl
  | cons c s ih => simp [ih]

end RequestUploads.Utf8
