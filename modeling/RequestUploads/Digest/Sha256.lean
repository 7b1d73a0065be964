import RequestUploads.Text.Ascii

/-!
# SHA-256

`sha256` is the hash of a content: padded to whole blocks of 64 bytes, which are absorbed one
after the other.  A `Hasher` takes the content in any portions.  Absorbing in two portions is
absorbing the whole (`absorb_append`), and so a hasher comes to the hash of what it was given
(`Hasher.hash_of_holds`).
-/

namespace RequestUploads.Sha256

structure State where
  a : UInt32
  b : UInt32
  c : UInt32
  d : UInt32
  e : UInt32
  f : UInt32
  g : UInt32
  h : UInt32
deriving DecidableEq, Repr

def initial : State :=
  ⟨0x6a09e667, 0xbb67ae85, 0x3c6ef372, 0xa54ff53a, 0x510e527f, 0x9b05688c, 0x1f83d9ab, 0x5be0cd19⟩

def constants : List UInt32 :=
  [0x428a2f98, 0x71374491, 0xb5c0fbcf, 0xe9b5dba5, 0x3956c25b, 0x59f111f1, 0x923f82a4, 0xab1c5ed5,
    0xd807aa98, 0x12835b01, 0x243185be, 0x550c7dc3, 0x72be5d74, 0x80deb1fe, 0x9bdc06a7, 0xc19bf174,
    0xe49b69c1, 0xefbe4786, 0x0fc19dc6, 0x240ca1cc, 0x2de92c6f, 0x4a7484aa, 0x5cb0a9dc, 0x76f988da,
    0x983e5152, 0xa831c66d, 0xb00327c8, 0xbf597fc7, 0xc6e00bf3, 0xd5a79147, 0x06ca6351, 0x14292967,
    0x27b70a85, 0x2e1b2138, 0x4d2c6dfc, 0x53380d13, 0x650a7354, 0x766a0abb, 0x81c2c92e, 0x92722c85,
    0xa2bfe8a1, 0xa81a664b, 0xc24b8b70, 0xc76c51a3, 0xd192e819, 0xd6990624, 0xf40e3585, 0x106aa070,
    0x19a4c116, 0x1e376c08, 0x2748774c, 0x34b0bcb5, 0x391c0cb3, 0x4ed8aa4a, 0x5b9cca4f, 0x682e6ff3,
    0x748f82ee, 0x78a5636f, 0x84c87814, 0x8cc70208, 0x90befffa, 0xa4506ceb, 0xbef9a3f7, 0xc67178f2]

/-! ## One block -/

def rotate (x : UInt32) (n : UInt32) : UInt32 := x >>> n ||| x <<< (32 - n)

def words : List UInt8 → List UInt32
  | a :: b :: c :: d :: rest =>
      (a.toUInt32 <<< 24 ||| b.toUInt32 <<< 16 ||| c.toUInt32 <<< 8 ||| d.toUInt32) :: words rest
  | _ => []

def nextWord (window : List UInt32) : UInt32 :=
  let x := window.getD 14 0
  let y := window.getD 1 0
  (rotate x 17 ^^^ rotate x 19 ^^^ x >>> 10) + window.getD 9 0
    + (rotate y 7 ^^^ rotate y 18 ^^^ y >>> 3) + window.getD 0 0

def round (s : State) (k w : UInt32) : State :=
  let t := s.h + (rotate s.e 6 ^^^ rotate s.e 11 ^^^ rotate s.e 25)
    + (s.e &&& s.f ^^^ ~~~s.e &&& s.g) + k + w
  let u := (rotate s.a 2 ^^^ rotate s.a 13 ^^^ rotate s.a 22)
    + (s.a &&& s.b ^^^ s.a &&& s.c ^^^ s.b &&& s.c)
  ⟨t + u, s.a, s.b, s.c, s.d + t, s.e, s.f, s.g⟩

/-- A round for each constant, over a window of sixteen words of the schedule. -/
def rounds : List UInt32 → (window : List UInt32) → State → State
  | [], _, s => s
  | k :: ks, window, s =>
      rounds ks (window.drop 1 ++ [nextWord window]) (round s k (window.getD 0 0))

def compress (s : State) (block : List UInt8) : State :=
  let t := rounds constants (words block) s
  ⟨s.a + t.a, s.b + t.b, s.c + t.c, s.d + t.d, s.e + t.e, s.f + t.f, s.g + t.g, s.h + t.h⟩

/-! ## Many blocks -/

def absorb (s : State) (bytes : List UInt8) : State × List UInt8 :=
  if (bytes.drop 63).isEmpty then (s, bytes)
  else absorb (compress s (bytes.take 64)) (bytes.drop 64)
termination_by bytes.length
decreasing_by simp_all; omega

theorem absorb_of_short {s : State} {bytes : List UInt8} (short : bytes.length ≤ 63) :
    absorb s bytes = (s, bytes) := by
  rw [absorb, if_pos (by simpa using short)]

theorem absorb_of_block {s : State} {bytes : List UInt8} (enough : 64 ≤ bytes.length) :
    absorb s bytes = absorb (compress s (bytes.take 64)) (bytes.drop 64) := by
  rw [absorb, if_neg (by simp; omega)]

theorem absorb_append (s : State) (first rest : List UInt8) :
    absorb s (first ++ rest) = absorb (absorb s first).1 ((absorb s first).2 ++ rest) := by
  by_cases short : first.length ≤ 63
  · rw [absorb_of_short short]
  · have enough : 64 ≤ first.length := by omega
    rw [absorb_of_block (by simp; omega), absorb_of_block enough,
      List.take_append_of_le_length enough, List.drop_append_of_le_length enough]
    exact absorb_append (compress s (first.take 64)) (first.drop 64) rest
termination_by first.length
decreasing_by simp; omega

/-! ## Padding -/

def bigEndian : (count n : Nat) → List UInt8
  | 0, _ => []
  | count + 1, n => bigEndian count (n / 256) ++ [UInt8.ofNat (n % 256)]

/-- What is put after a content of this length: a bit, zeros, and the length in bits, so that the
last block is whole. -/
def padding (length : Nat) : List UInt8 :=
  0x80 :: List.replicate ((119 - length % 64) % 64) 0 ++ bigEndian 8 (8 * length)

def sha256 (content : List UInt8) : State :=
  (absorb initial (content ++ padding content.length)).1

def State.bytes (s : State) : List UInt8 :=
  [s.a, s.b, s.c, s.d, s.e, s.f, s.g, s.h].flatMap fun word => bigEndian 4 word.toNat

def State.hex (s : State) : String :=
  String.ofList (s.bytes.flatMap fun b =>
    [Ascii.hexDigit (b.toNat / 16), Ascii.hexDigit (b.toNat % 16)])

/-! ## Content in portions -/

/-- A hash in the making: the state after the whole blocks, the bytes since, and the length. -/
structure Hasher where
  state : State
  pending : List UInt8
  length : Nat

namespace Hasher

def empty : Hasher := ⟨initial, [], 0⟩

def update (h : Hasher) (portion : List UInt8) : Hasher :=
  let (state, pending) := absorb h.state (h.pending ++ portion)
  ⟨state, pending, h.length + portion.length⟩

def hash (h : Hasher) : State := (absorb h.state (h.pending ++ padding h.length)).1

def Holds (h : Hasher) (content : List UInt8) : Prop :=
  absorb initial content = (h.state, h.pending) ∧ h.length = content.length

theorem holds_empty : empty.Holds [] := ⟨absorb_of_short (by simp), rfl⟩

theorem holds_update {h : Hasher} {content : List UInt8} (holds : h.Holds content)
    (portion : List UInt8) : (h.update portion).Holds (content ++ portion) := by
  refine ⟨?_, ?_⟩
  · rw [absorb_append, holds.1]; rfl
  · simp [update, holds.2]

theorem hash_of_holds {h : Hasher} {content : List UInt8} (holds : h.Holds content) :
    h.hash = sha256 content := by
  rw [sha256, absorb_append, holds.1, hash, holds.2]

end Hasher

end RequestUploads.Sha256
