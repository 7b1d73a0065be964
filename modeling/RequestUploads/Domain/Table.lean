import RequestUploads.Text.Ascii
import RequestUploads.Text.Pieces

/-!
# Range lists

Properties of characters are kept as lines of entries `first-last=value` in hexadecimal, where
`-last` and `=value` may be absent.  `Table.ofLines` reads such lines and `Table.find?` looks a
character up.
-/

namespace RequestUploads.Domain

structure Entry where
  first : Nat
  last : Nat
  value : List Char

def hexNumber (s : List Char) : Nat :=
  s.foldl (fun n c => 16 * n + (Ascii.hexValue? c).getD 0) 0

def Entry.ofText (s : List Char) : Entry :=
  let (range, value) := (Text.cut? '=' s).getD (s, [])
  match Text.cut? '-' range with
  | some (first, last) => ⟨hexNumber first, hexNumber last, value⟩
  | none => ⟨hexNumber range, hexNumber range, value⟩

abbrev Table := List Entry

def Table.ofLines (lines : List String) : Table :=
  lines.flatMap fun line => (Text.pieces ' ' line.toList).map Entry.ofText

def Table.find? (table : Table) (c : Char) : Option Entry :=
  List.find? (fun entry => decide (entry.first ≤ c.toNat ∧ c.toNat ≤ entry.last)) table

def Table.has (table : Table) (c : Char) : Bool := (table.find? c).isSome

def Table.value? (table : Table) (c : Char) : Option (List Char) := (table.find? c).map (·.value)

end RequestUploads.Domain
