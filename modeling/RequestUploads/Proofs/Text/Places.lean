import RequestUploads.Proofs.Results
import RequestUploads.Proofs.Text.Percent

/-!
# Decoding place by place

Escapes are found by a loop over the places of the bytes, which looks two places ahead at a percent
sign.  Here each look is checked, and one outside the bytes ends the loop with its place
(`unescapeFrom`).  At every place inside, the loop finds the next byte that the text stands for
(`exists_byteFrom`), so it comes to its end with what `unescape` gives, whatever the text is
(`decodeByPlaces_eq`).
-/

namespace RequestUploads.Percent
open Results

/-! ## The loop -/

def byteAt (bytes : Array UInt8) (place : Nat) : Except Nat UInt8 :=
  match bytes[place]? with
  | some b => .ok b
  | none => .error place

def byteFrom (bytes : Array UInt8) (place : Nat) : Except Nat (UInt8 × Nat) := do
  let b ← byteAt bytes place
  if b = 0x25 ∧ place + 2 < bytes.size then
    match digit? (← byteAt bytes (place + 1)), digit? (← byteAt bytes (place + 2)) with
    | some high, some low => return (high <<< 4 ||| low, 2)
    | _, _ => return (b, 0)
  else return (b, 0)

def unescapeFrom (bytes : Array UInt8) (place : Nat) (read : List UInt8) :
    Except Nat (List UInt8) :=
  if place < bytes.size then
    match byteFrom bytes place with
    | .error outside => .error outside
    | .ok (b, besides) => unescapeFrom bytes (place + 1 + besides) (read ++ [b])
  else .ok read
termination_by bytes.size - place

def decodeByPlaces (s : List Char) : Except Nat (List Char) :=
  (unescapeFrom (Utf8.encode s).toArray 0 []).map Utf8.decodeLossy

/-! ## Steps -/

theorem shift_or : ∀ high < 16, ∀ low < 16,
    UInt8.ofNat high <<< 4 ||| UInt8.ofNat low = 16 * UInt8.ofNat high + UInt8.ofNat low := by
  decide

theorem shift_or_of_digit? {b c high low : UInt8} (isHigh : digit? b = some high)
    (isLow : digit? c = some low) : high <<< 4 ||| low = 16 * high + low := by
  obtain ⟨m, ofHigh, rfl⟩ := Option.map_eq_some_iff.1 isHigh
  obtain ⟨n, ofLow, rfl⟩ := Option.map_eq_some_iff.1 isLow
  exact shift_or m (Ascii.hexValue?_lt ofHigh) n (Ascii.hexValue?_lt ofLow)

theorem byteAt_of_lt {bytes : Array UInt8} {place : Nat} (inside : place < bytes.size) :
    byteAt bytes place = .ok bytes[place] := by
  rw [byteAt, Array.getElem?_eq_getElem inside]

theorem drop_of_lt {bytes : Array UInt8} {place : Nat} (inside : place < bytes.size) :
    bytes.toList.drop place = bytes[place] :: bytes.toList.drop (place + 1) := by
  rw [List.drop_eq_getElem_cons (by simpa using inside)]
  rfl

theorem exists_byteFrom {bytes : Array UInt8} {place : Nat} (inside : place < bytes.size) :
    ∃ b besides, byteFrom bytes place = .ok (b, besides) ∧
      unescape (bytes.toList.drop place) =
        b :: unescape (bytes.toList.drop (place + 1 + besides)) := by
  rw [byteFrom, byteAt_of_lt inside, ok_bind, drop_of_lt inside]
  split_ifs with escape
  · obtain ⟨percent, bound⟩ := escape
    rw [byteAt_of_lt (by omega), byteAt_of_lt bound, ok_bind, ok_bind, percent]
    have ahead : bytes.toList.drop (place + 1) =
        bytes[place + 1] :: bytes[place + 2] :: bytes.toList.drop (place + 3) := by
      rw [drop_of_lt (by omega), drop_of_lt bound]
    have kept (noEscape : digit? bytes[place + 1] = none ∨ digit? bytes[place + 2] = none) :
        unescape (0x25 :: bytes.toList.drop (place + 1)) =
          0x25 :: unescape (bytes.toList.drop (place + 1)) := by
      refine unescape_percent fun b c rest same => ?_
      rw [ahead] at same
      cases same
      exact noEscape
    cases isHigh : digit? bytes[place + 1] with
    | none => exact ⟨0x25, 0, rfl, kept (.inl isHigh)⟩
    | some high =>
        cases isLow : digit? bytes[place + 2] with
        | none => exact ⟨0x25, 0, rfl, kept (.inr isLow)⟩
        | some low =>
            refine ⟨high <<< 4 ||| low, 2, rfl, ?_⟩
            rw [ahead, unescape, if_pos rfl, isHigh, isLow, shift_or_of_digit? isHigh isLow]
  · refine ⟨bytes[place], 0, rfl, ?_⟩
    by_cases percent : bytes[place] = 0x25
    · -- fewer than two bytes are left, too few for an escape
      rw [percent]
      refine unescape_percent fun b c rest same => ?_
      have left := congrArg List.length same
      simp only [List.length_drop, Array.length_toList, List.length_cons] at left
      exact absurd ⟨percent, by omega⟩ escape
    · exact unescape_cons_of_ne percent _

/-! ## The whole loop -/

theorem unescapeFrom_eq (bytes : Array UInt8) (place : Nat) (read : List UInt8) :
    unescapeFrom bytes place read = .ok (read ++ unescape (bytes.toList.drop place)) := by
  induction place, read using unescapeFrom.induct bytes with
  | case1 place read inside outside fails =>
      obtain ⟨b, besides, found, -⟩ := exists_byteFrom inside
      rw [fails] at found
      cases found
  | case2 place read inside b besides found ih =>
      obtain ⟨b, besides, same, step⟩ := exists_byteFrom inside
      rw [found] at same
      cases same
      rw [unescapeFrom, if_pos inside, found, step]
      simpa using ih
  | case3 place read outside =>
      rw [unescapeFrom, if_neg outside, List.drop_eq_nil_of_le (by simpa using outside)]
      simp [unescape]

theorem decodeByPlaces_eq (s : List Char) : decodeByPlaces s = .ok (decode s) := by
  rw [decodeByPlaces, unescapeFrom_eq]
  rfl

theorem decode_undoes_encodes (s : List Char) :
    (∀ encoded, Encodes (· == '%') s encoded → decode encoded = s) ∧
    decodeByPlaces s = .ok (decode s) :=
  ⟨fun _ encodes => decode_of_encodes rfl encodes, decodeByPlaces_eq s⟩

theorem decode_undoes_encodes_mixed :
    let s := "€%41".toList
    let encoded := "%e2%82%AC%2541".toList
    Encodes (· == '%') s encoded ∧ decode encoded = s ∧ decodeByPlaces encoded = .ok s := by
  intro s encoded
  have euro : Escapes (Utf8.encodeChar '€') "%e2%82%AC".toList :=
    .cons rfl rfl (.cons rfl rfl (.cons rfl rfl .nil))
  have percent : Escapes (Utf8.encodeChar '%') "%25".toList := .cons rfl rfl .nil
  have encodes : Encodes (· == '%') s encoded :=
    .escaped euro (.escaped percent (.plain rfl (.plain rfl .nil)))
  have decoded := (decode_undoes_encodes s).1 encoded encodes
  have looked := (decode_undoes_encodes encoded).2
  exact ⟨encodes, decoded, by rw [looked, decoded]⟩

/-- No place is read after a single digit. -/
example : decodeByPlaces "100%4".toList = .ok "100%4".toList := by decide +kernel

end RequestUploads.Percent
