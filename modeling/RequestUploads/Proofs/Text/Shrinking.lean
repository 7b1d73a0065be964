import RequestUploads.Proofs.Text.Percent

/-!
# Decoding makes no text longer

An escape takes three bytes and stands for one, but U+FFFD in the place of that one takes three
again.  The account is kept along the reader: as long as bytes are pending, the three bytes of one
escape are held back for U+FFFD (`Utf8.held`), and since only escapes leave bytes pending, they are
there.  So no text becomes longer, also if percent signs count more than their byte (`shrinks`);
counted so, a text with an escape becomes lighter, and only texts without escapes are left as they
are (`weight_decodeFrom_lt`).
-/

namespace RequestUploads

namespace Utf8

/-! ## Readers in any position -/

def shown (read : List (Option Char)) : List Char := read.map (·.getD '\uFFFD')

def decodeFrom (position : Option Pending) (bytes : List UInt8) : List Char :=
  shown (scan position bytes)

/-- How many bytes U+FFFD takes in the place of what is pending. -/
def held : Option Pending → Nat
  | none => 0
  | some _ => 3

/-- Only bytes that no character begins with can go on with what is pending. -/
def Continues (position : Option Pending) : Prop :=
  ∀ pending ∈ position, 0x80 ≤ pending.low ∧ pending.high < 0xC0

theorem continues_none : Continues none := by simp [Continues]

theorem decodeFrom_cons (position : Option Pending) (b : UInt8) (bytes : List UInt8) :
    decodeFrom position (b :: bytes) =
      shown (step position b).1 ++ decodeFrom (step position b).2 bytes := by
  simp only [decodeFrom, shown, scan, List.map_append]

theorem continues_lead? (b : UInt8) : Continues (lead? b) := by
  unfold lead?
  dsimp only
  split_ifs <;> simp [Continues]

theorem continues_start (b : UInt8) : Continues (start b).2 := by
  unfold start
  split
  · exact continues_none
  · have leads := continues_lead? b
    cases announced : lead? b with
    | none => exact continues_none
    | some pending => rwa [announced] at leads

theorem continues_step (position : Option Pending) (b : UInt8) :
    Continues (step position b).2 := by
  cases position with
  | none => exact continues_start b
  | some pending =>
      simp only [step]
      split
      · cases pending.owed with
        | zero => exact continues_none
        | succ owed => simp [Continues]
      · exact continues_start b

theorem scan_closing {pending : Pending} {b : UInt8}
    (outside : ¬(pending.low ≤ b.toNat ∧ b.toNat ≤ pending.high)) (bytes : List UInt8) :
    scan (some pending) (b :: bytes) = none :: scan none (b :: bytes) := by
  simp [scan, step, outside]

theorem exists_first (c : Char) :
    ∃ b bytes, encodeChar c = b :: bytes ∧ (b.toNat < 0x80 ∨ 0xC0 ≤ b.toNat) := by
  have bound := toNat_lt c
  unfold encodeChar
  dsimp only
  split_ifs with one two three
  · exact ⟨_, _, rfl, .inl (by rwa [toNat_ofNat (by omega)])⟩
  all_goals exact ⟨_, _, rfl, .inr (by rw [toNat_ofNat (by omega)]; omega)⟩

theorem decodeFrom_encodeChar {position : Option Pending} (continues : Continues position)
    (c : Char) (bytes : List UInt8) :
    decodeFrom position (encodeChar c ++ bytes) =
      decodeFrom position [] ++ c :: decodeFrom none bytes := by
  cases position with
  | none => simp [decodeFrom, shown, scan_encodeChar, scan]
  | some pending =>
      obtain ⟨low, high⟩ := continues pending rfl
      obtain ⟨b, others, first, begins⟩ := exists_first c
      have outside : ¬(pending.low ≤ b.toNat ∧ b.toNat ≤ pending.high) := by omega
      have closing := scan_closing outside (others ++ bytes)
      rw [← List.cons_append, ← first, scan_encodeChar] at closing
      simp [decodeFrom, shown, closing, scan]

theorem length_encodeChar_le (c : Char) : (encodeChar c).length ≤ 4 := by
  unfold encodeChar
  dsimp only
  split_ifs <;> simp

end Utf8

namespace Percent

/-! ## Weights -/

/-- The size of a text in which percent signs count `extra` more than their byte. -/
def weight (extra : Nat) (s : List Char) : Nat := Utf8.size s + extra * s.count '%'

section

variable (extra : Nat)

theorem weight_zero (s : List Char) : weight 0 s = Utf8.size s := by simp [weight]

theorem weight_nil : weight extra [] = 0 := rfl

theorem weight_append (s t : List Char) :
    weight extra (s ++ t) = weight extra s + weight extra t := by
  simp only [weight, Utf8.size, Utf8.encode_append, List.length_append, List.count_append,
    Nat.mul_add]
  omega

theorem weight_cons (c : Char) (s : List Char) :
    weight extra (c :: s) = weight extra [c] + weight extra s :=
  weight_append extra [c] s

theorem weight_single (c : Char) :
    weight extra [c] = (Utf8.encodeChar c).length + if c = '%' then extra else 0 := by
  by_cases percent : c = '%' <;> simp [weight, Utf8.size, percent]

theorem weight_single_le (c : Char) : weight extra [c] ≤ 4 + extra := by
  have bytes := Utf8.length_encodeChar_le c
  rw [weight_single]
  split_ifs <;> omega

theorem weight_ascii {c : Char} (ascii : c.toNat < 0x80) :
    weight extra [c] = 1 + if c = '%' then extra else 0 := by
  rw [weight_single, Utf8.encodeChar_ascii ascii, List.length_singleton]

theorem weight_digit {c : Char} {n : Nat} (digit : Ascii.hexValue? c = some n) :
    weight extra [c] = 1 := by
  have differ : c ≠ '%' := by
    rintro rfl
    cases digit
  rw [weight_ascii extra (Ascii.toNat_of_hexValue? digit).2, if_neg differ]

theorem weight_replacement : weight extra ['\uFFFD'] = 3 := by
  rw [weight_single, if_neg (by decide)]
  decide

theorem weight_escape {high low : Char} {m n : Nat} (isHigh : Ascii.hexValue? high = some m)
    (isLow : Ascii.hexValue? low = some n) (s : List Char) :
    weight extra ('%' :: high :: low :: s) = 3 + extra + weight extra s := by
  rw [weight_cons, weight_cons _ high, weight_cons _ low, weight_digit extra isHigh,
    weight_digit extra isLow, weight_ascii extra (by decide), if_pos rfl]
  omega

theorem weight_held (position : Option Utf8.Pending) :
    weight extra (Utf8.decodeFrom position []) = Utf8.held position := by
  cases position with
  | none => rfl
  | some pending => exact weight_replacement extra

end

variable {extra : Nat}

/-! ## Steps -/

/-- What a byte shows, with what it leaves to be held, is within the three bytes of its escape. -/
theorem weight_start_le (few : extra ≤ 2) (b : UInt8) :
    weight extra (Utf8.shown (Utf8.start b).1) + Utf8.held (Utf8.start b).2 ≤ 3 := by
  unfold Utf8.start
  split_ifs with ascii
  · have light := weight_ascii extra ((Utf8.toNat_ofNat_byte b).trans_lt ascii)
    simp only [Utf8.shown, List.map_cons, List.map_nil, Option.getD_some, Utf8.held, light]
    split_ifs <;> omega
  · cases Utf8.lead? b with
    | none => exact (weight_replacement extra).le
    | some pending => exact le_rfl

theorem weight_step_le (few : extra ≤ 2) (position : Option Utf8.Pending) (b : UInt8) :
    weight extra (Utf8.shown (Utf8.step position b).1) + Utf8.held (Utf8.step position b).2 ≤
      3 + Utf8.held position := by
  have afresh := weight_start_le few b
  cases position with
  | none => exact afresh
  | some pending =>
      simp only [Utf8.step]
      split_ifs with inRange
      · cases pending.owed with
        | zero =>
            have light := weight_single_le extra
              (Char.ofNat (pending.bits * 64 + (b.toNat - 0x80)))
            simp only [Utf8.shown, List.map_cons, List.map_nil, Option.getD_some, Utf8.held]
            omega
        | succ owed => simp [Utf8.shown, weight_nil, Utf8.held]
      · have closed := weight_cons extra '\uFFFD' (Utf8.shown (Utf8.start b).1)
        rw [weight_replacement] at closed
        simp only [Utf8.shown, List.map_cons, Option.getD_none, Utf8.held] at closed afresh ⊢
        omega

/-! ## Whole texts -/

def decodeFrom (position : Option Utf8.Pending) (s : List Char) : List Char :=
  Utf8.decodeFrom position (unescape (Utf8.encode s))

/-- Wherever the reader stands, it makes of the text one that weighs no more. -/
def Shrinks (extra : Nat) (s : List Char) : Prop :=
  ∀ position, Utf8.Continues position →
    weight extra (decodeFrom position s) ≤ weight extra s + Utf8.held position

theorem weight_decodeFrom_plain {c : Char} {s : List Char} (plain : ¬StartsEscape (c :: s))
    {position : Option Utf8.Pending} (continues : Utf8.Continues position) :
    weight extra (decodeFrom position (c :: s)) =
      Utf8.held position + weight extra [c] + weight extra (decodeFrom none s) := by
  rw [decodeFrom, unescape_encode_cons plain, Utf8.decodeFrom_encodeChar continues, weight_append,
    weight_cons, weight_held, Nat.add_assoc]
  rfl

/-- An escape shows no more than its three bytes, so the rest of its weight is lost. -/
theorem weight_decodeFrom_escape_le (few : extra ≤ 2) {s : List Char} (starts : StartsEscape s)
    (shrinks : ∀ after, after.length < s.length → Shrinks extra after)
    (position : Option Utf8.Pending) :
    weight extra (decodeFrom position s) + extra ≤ weight extra s + Utf8.held position := by
  obtain ⟨high, low, after, rfl, isHigh, isLow⟩ := starts
  obtain ⟨m, isHigh⟩ := Option.isSome_iff_exists.1 isHigh
  obtain ⟨n, isLow⟩ := Option.isSome_iff_exists.1 isLow
  obtain ⟨b, eq⟩ := exists_unescape_escape isHigh isLow after
  have later := shrinks after (by simp; omega) _ (Utf8.continues_step position b)
  have step := weight_step_le few position b
  rw [decodeFrom] at later ⊢
  rw [eq, Utf8.decodeFrom_cons, weight_append, weight_escape extra isHigh isLow]
  omega

theorem shrinks (few : extra ≤ 2) (s : List Char) : Shrinks extra s := by
  -- Induction on the length: after an escape it is what follows the digits that is shorter.
  induction size : s.length using Nat.strongRecOn generalizing s with
  | ind length ih =>
      subst size
      intro position continues
      cases s with
      | nil => exact (weight_held extra position).le.trans (by omega)
      | cons c s =>
          by_cases starts : StartsEscape (c :: s)
          · have lost := weight_decodeFrom_escape_le few starts
              (fun after shorter => ih after.length shorter after rfl) position
            omega
          · have later := ih s.length (by simp) s rfl none Utf8.continues_none
            rw [weight_decodeFrom_plain starts continues, weight_cons extra c s]
            simp only [Utf8.held] at later
            omega

theorem weight_decodeFrom_lt {s : List Char} (escaped : HasEscape s)
    {position : Option Utf8.Pending} (continues : Utf8.Continues position) :
    weight 1 (decodeFrom position s) < weight 1 s + Utf8.held position := by
  -- Induction on what stands before the first escape.
  have few : 1 ≤ 2 := by decide
  induction s generalizing position with
  | nil => exact absurd escaped.mem List.not_mem_nil
  | cons c s ih =>
      by_cases starts : StartsEscape (c :: s)
      · have lost := weight_decodeFrom_escape_le few starts (fun after _ => shrinks few after)
          position
        omega
      · have later := ih (hasEscape_cons escaped starts) Utf8.continues_none
        rw [weight_decodeFrom_plain starts continues, weight_cons 1 c s]
        simp only [Utf8.held] at later
        omega

theorem decode_eq_self_iff_and_size_le (s : List Char) :
    (decode s = s ↔ ¬HasEscape s) ∧ Utf8.size (decode s) ≤ Utf8.size s := by
  refine ⟨⟨fun same escaped => ?_, decode_of_not_hasEscape⟩, ?_⟩
  · have lighter := weight_decodeFrom_lt escaped Utf8.continues_none
    exact absurd (congrArg (weight 1) same) lighter.ne
  · rw [← weight_zero, ← weight_zero]
    exact shrinks (Nat.zero_le 2) s none Utf8.continues_none

/-- Three escapes of bytes that are no UTF-8 come out as long as they were. -/
example : decode "%FF%C3%C3".toList = "\uFFFD\uFFFD\uFFFD".toList := by decide +kernel

end Percent

end RequestUploads
