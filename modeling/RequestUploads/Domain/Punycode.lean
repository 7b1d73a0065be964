/-!
# Punycode

A label with characters beyond ASCII has a spelling in ASCII: its ASCII characters, a hyphen, and
then for each other character, in order of code points, the distance to go from the previous
insertion, written in digits `a` to `z` and `0` to `9` of mixed radix.
-/

namespace RequestUploads.Domain.Punycode

def digitChar (n : Nat) : Char := "abcdefghijklmnopqrstuvwxyz0123456789".toList.getD n 'a'

def digitValue? (c : Char) : Option Nat :=
  if c.isLower then some (c.toNat - 'a'.toNat)
  else if c.isUpper then some (c.toNat - 'A'.toNat)
  else if c.isDigit then some (c.toNat - '0'.toNat + 26)
  else none

theorem digitValue?_digitChar : ∀ n < 36, digitValue? (digitChar n) = some n := by decide

/-- The least digit value that is not the last of its number, at position `k` (36, 72, …). -/
def threshold (bias k : Nat) : Nat := min 26 (max 1 (k - bias))

theorem threshold_pos (bias k : Nat) : 0 < threshold bias k := by unfold threshold; omega

theorem threshold_le (bias k : Nat) : threshold bias k ≤ 26 := by unfold threshold; omega

def settle (delta count : Nat) : Nat × Nat :=
  if 455 < delta then settle (delta / 35) (count + 36) else (delta, count)
termination_by delta
decreasing_by omega

def adapt (delta points : Nat) (first : Bool) : Nat :=
  let scaled := if first then delta / 700 else delta / 2
  let (rest, count) := settle (scaled + scaled / points) 0
  count + 36 * rest / (rest + 38)

/-! ## Writing -/

def digits (bias k q : Nat) : List Char :=
  let t := threshold bias k
  if q < t then [digitChar q]
  else digitChar (t + (q - t) % (36 - t)) :: digits bias (k + 36) ((q - t) / (36 - t))
termination_by q
decreasing_by
  have positive := threshold_pos bias k
  have bounded := threshold_le bias k
  have := Nat.div_le_self (q - threshold bias k) (36 - threshold bias k)
  omega

/-- A label being written: the distance so far, the bias, how many characters are placed, whether
none beyond ASCII is, and what is written, in reverse. -/
structure Writer where
  delta : Nat
  bias : Nat
  placed : Nat
  first : Bool
  out : List Char

def Writer.pass (n : Nat) (w : Writer) (c : Char) : Writer :=
  if c.toNat < n then { w with delta := w.delta + 1 }
  else if c.toNat = n then
    { delta := 0
      bias := adapt w.delta (w.placed + 1) w.first
      placed := w.placed + 1
      first := false
      out := (digits w.bias 36 w.delta).reverse ++ w.out }
  else w

/-- Places all code points of the list, the last placed being below `n`. -/
def Writer.place (s : List Char) : Writer → (n : Nat) → List Nat → Writer
  | w, _, [] => w
  | w, n, point :: points =>
      let w := { w with delta := w.delta + (point - n) * (w.placed + 1) }
      let w := s.foldl (Writer.pass point) w
      Writer.place s { w with delta := w.delta + 1 } (point + 1) points

def insertOnce (n : Nat) : List Nat → List Nat
  | [] => [n]
  | m :: ms => if n < m then n :: m :: ms else if n = m then m :: ms else m :: insertOnce n ms

def encode (s : List Char) : List Char :=
  let basic := s.filter fun c => decide (c.toNat < 0x80)
  let points := (s.filter fun c => decide (0x80 ≤ c.toNat)).foldl
    (fun points c => insertOnce c.toNat points) []
  let written := Writer.place s ⟨0, 72, basic.length, true, []⟩ 0x80 points
  basic ++ (if basic.isEmpty then [] else ['-']) ++ written.out.reverse

/-! ## Reading -/

/-- A label being read: its characters so far, the last code point, where the next one goes, where
it stood before the number being read, the bias, and the position and weight of the next digit. -/
structure Reader where
  out : List Char
  point : Nat
  place : Nat
  before : Nat
  bias : Nat
  k : Nat
  weight : Nat

def Reader.insert? (r : Reader) : Option Reader :=
  let length := r.out.length + 1
  let point := r.point + r.place / length
  let place := r.place % length
  if point.isValidChar then
    some { out := r.out.insertIdx place (Char.ofNat point)
           point := point
           place := place + 1
           before := place + 1
           bias := adapt (r.place - r.before) length (r.before = 0)
           k := 36
           weight := 1 }
  else none

def Reader.run? : Reader → List Char → Option (List Char)
  | r, [] => if r.k = 36 then some r.out else none
  | r, c :: s => do
      let digit ← digitValue? c
      let read := { r with place := r.place + digit * r.weight }
      let t := threshold r.bias r.k
      if digit < t then Reader.run? (← read.insert?) s
      else Reader.run? { read with k := r.k + 36, weight := r.weight * (36 - t) } s

def splitLast (s : List Char) : List Char × List Char :=
  let tail := (s.reverse.takeWhile (· ≠ '-')).reverse
  (s.take (s.length - tail.length - 1), tail)

def decode? (s : List Char) : Option (List Char) :=
  let (basic, tail) := splitLast s
  Reader.run? ⟨basic, 0x80, 0, 0, 72, 36, 1⟩ tail

end RequestUploads.Domain.Punycode
