import RequestUploads.Domain.Table
import RequestUploads.Domain.Data.Composition

/-!
# Canonical composition

`compose` brings a text into the form in which a letter and the marks on it are one character
where there is such a character: decompose, put the marks of each letter in the order of their
combining classes, and compose again.  Syllables of Hangul are computed, all else is looked up.
-/

namespace RequestUploads.Domain

private def combining : Table := Table.ofLines Data.combining

def combiningClass (c : Char) : Nat :=
  if c.toNat < 0x300 then 0
  else match combining.value? c with
    | some value => (Ascii.number? value).getD 0
    | none => 0

private def composites : List (Char × Char × Char) :=
  (Table.ofLines Data.composites).filterMap fun entry =>
    (Text.cut? '+' entry.value).map fun (a, b) =>
      (Char.ofNat entry.first, Char.ofNat (hexNumber a), Char.ofNat (hexNumber b))

/-! ## Syllables of Hangul -/

def syllableParts? (c : Char) : Option (Char × Char) :=
  let n := c.toNat
  if 0xAC00 ≤ n ∧ n < 0xAC00 + 11172 then
    let s := n - 0xAC00
    if s % 28 = 0 then
      some (Char.ofNat (0x1100 + s / 588), Char.ofNat (0x1161 + s % 588 / 28))
    else some (Char.ofNat (n - s % 28), Char.ofNat (0x11A7 + s % 28))
  else none

def syllable? (a b : Char) : Option Char :=
  let l := a.toNat
  let v := b.toNat
  if 0x1100 ≤ l ∧ l < 0x1113 ∧ 0x1161 ≤ v ∧ v < 0x1176 then
    some (Char.ofNat (0xAC00 + ((l - 0x1100) * 21 + (v - 0x1161)) * 28))
  else if 0xAC00 ≤ l ∧ l < 0xAC00 + 11172 ∧ (l - 0xAC00) % 28 = 0 ∧ 0x11A7 < v ∧ v < 0x11C3 then
    some (Char.ofNat (l + (v - 0x11A7)))
  else none

/-! ## Decomposition -/

def parts? (c : Char) : Option (Char × Char) :=
  if c.toNat < 0xC0 then none
  else match syllableParts? c with
    | some parts => some parts
    | none => (composites.find? fun entry => entry.1 = c).map (·.2)

/-- A character taken apart to the given depth; composites are nested at most three deep. -/
def decomposeChar : (depth : Nat) → Char → List Char
  | 0, c => [c]
  | depth + 1, c => match parts? c with
    | some (a, b) => decomposeChar depth a ++ [b]
    | none => [c]

/-- A mark put before the later ones of higher class that end the reversed text. -/
def insertMark (c : Char) : List Char → List Char
  | [] => [c]
  | d :: before =>
      if combiningClass d ≤ combiningClass c ∨ combiningClass c = 0 then c :: d :: before
      else d :: insertMark c before

def decompose (s : List Char) : List Char :=
  ((s.flatMap (decomposeChar 4)).foldl (fun before c => insertMark c before) []).reverse

/-! ## Composition -/

def composite? (a b : Char) : Option Char :=
  match syllable? a b with
  | some c => some c
  | none => (composites.find? fun entry => entry.2 = (a, b)).map (·.1)

/-- Composes what follows a starter: `marks` are the characters since the starter that found no
partner, in reverse. -/
def composeFrom (starter : Char) (marks : List Char) : List Char → List Char
  | [] => starter :: marks.reverse
  | c :: s =>
      let free := match marks with
        | [] => true
        | mark :: _ => decide (combiningClass mark < combiningClass c)
      match if free then composite? starter c else none with
      | some whole => composeFrom whole marks s
      | none =>
          if combiningClass c = 0 then starter :: marks.reverse ++ composeFrom c [] s
          else composeFrom starter (c :: marks) s

def composeAll : List Char → List Char
  | [] => []
  | c :: s => if combiningClass c = 0 then composeFrom c [] s else c :: composeAll s

def compose (s : List Char) : List Char :=
  if s.all (fun c => decide (c.toNat < 0x80)) then s else composeAll (decompose s)

end RequestUploads.Domain
