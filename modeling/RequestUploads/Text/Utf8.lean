/-!
# UTF-8

`encode` writes a text as bytes.  `scan` reads bytes as a machine that goes one byte at a time
and keeps the character it is in the middle of: each character comes out as itself and each
maximal ill-formed run as `none`.  `decode?` refuses such runs, `decodeLossy` puts U+FFFD in
their place.
-/

namespace RequestUploads.Utf8

/-! ## Writing -/

def encodeChar (c : Char) : List UInt8 :=
  let n := c.toNat
  if n < 0x80 then [UInt8.ofNat n]
  else if n < 0x800 then [UInt8.ofNat (0xC0 + n / 64), UInt8.ofNat (0x80 + n % 64)]
  else if n < 0x10000 then
    [UInt8.ofNat (0xE0 + n / 4096), UInt8.ofNat (0x80 + n / 64 % 64), UInt8.ofNat (0x80 + n % 64)]
  else
    [UInt8.ofNat (0xF0 + n / 262144), UInt8.ofNat (0x80 + n / 4096 % 64),
      UInt8.ofNat (0x80 + n / 64 % 64), UInt8.ofNat (0x80 + n % 64)]

def encode (s : List Char) : List UInt8 := s.flatMap encodeChar

@[simp] theorem encode_nil : encode [] = [] := rfl

@[simp] theorem encode_cons (c : Char) (s : List Char) :
    encode (c :: s) = encodeChar c ++ encode s := rfl

@[simp] theorem encode_append (s t : List Char) : encode (s ++ t) = encode s ++ encode t := by
  simp [encode]

def size (s : List Char) : Nat := (encode s).length

/-! ## Reading -/

/-- A character whose first bytes have been read: the value of its bits so far, the range that
the next byte must lie in, and how many bytes are owed after that one. -/
structure Pending where
  bits : Nat
  low : Nat
  high : Nat
  owed : Nat
deriving DecidableEq

def lead? (b : UInt8) : Option Pending :=
  let n := b.toNat
  if 0xC2 ≤ n ∧ n ≤ 0xDF then some ⟨n - 0xC0, 0x80, 0xBF, 0⟩
  else if n = 0xE0 then some ⟨0, 0xA0, 0xBF, 1⟩
  else if n = 0xED then some ⟨0xD, 0x80, 0x9F, 1⟩
  else if 0xE1 ≤ n ∧ n ≤ 0xEF then some ⟨n - 0xE0, 0x80, 0xBF, 1⟩
  else if n = 0xF0 then some ⟨0, 0x90, 0xBF, 2⟩
  else if 0xF1 ≤ n ∧ n ≤ 0xF3 then some ⟨n - 0xF0, 0x80, 0xBF, 2⟩
  else if n = 0xF4 then some ⟨4, 0x80, 0x8F, 2⟩
  else none

def start (b : UInt8) : List (Option Char) × Option Pending :=
  if b.toNat < 0x80 then ([some (Char.ofNat b.toNat)], none)
  else match lead? b with
    | some pending => ([], some pending)
    | none => ([none], none)

/-- A byte read in any position; one that cannot go on with a character closes it as ill-formed
and is read afresh. -/
def step (position : Option Pending) (b : UInt8) : List (Option Char) × Option Pending :=
  match position with
  | none => start b
  | some p =>
      if p.low ≤ b.toNat ∧ b.toNat ≤ p.high then
        let bits := p.bits * 64 + (b.toNat - 0x80)
        match p.owed with
        | 0 => ([some (Char.ofNat bits)], none)
        | owed + 1 => ([], some ⟨bits, 0x80, 0xBF, owed⟩)
      else
        (none :: (start b).1, (start b).2)

def scan (position : Option Pending) : List UInt8 → List (Option Char)
  | [] => if position.isSome then [none] else []
  | b :: bytes => (step position b).1 ++ scan (step position b).2 bytes

def decodeLossy (bytes : List UInt8) : List Char := (scan none bytes).map (·.getD '\uFFFD')

def decode? (bytes : List UInt8) : Option (List Char) := (scan none bytes).mapM id

end RequestUploads.Utf8
