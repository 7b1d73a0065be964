import RequestUploads.Text.Ascii
import RequestUploads.Text.Pieces

namespace RequestUploads.Uri

/-! ## Four numbers -/

def numberIn? (base : Nat) (s : List Char) : Option Nat :=
  s.foldlM (fun n c => do
    let digit ← Ascii.hexValue? c
    if digit < base then some (base * n + digit) else none) 0

def ipv4Number? : List Char → Option Nat
  | [] => none
  | ['0'] => some 0
  | '0' :: 'x' :: s => numberIn? 16 s
  | '0' :: 'X' :: s => numberIn? 16 s
  | '0' :: s => numberIn? 8 s
  | s => numberIn? 10 s

def labels (s : List Char) : List (List Char) :=
  let parts := Text.pieces '.' s
  if 1 < parts.length ∧ parts.getLast? = some [] then parts.dropLast else parts

/-- Whether the last label is a number, or digits that only look like one. -/
def endsInNumber (s : List Char) : Bool :=
  match (labels s).getLast? with
  | none => false
  | some last => (!last.isEmpty && last.all Char.isDigit) || (ipv4Number? last).isSome

/-- The address that one to four numbers denote: the last one fills the bytes that are left. -/
def ipv4? (s : List Char) : Option Nat := do
  let numbers ← (labels s).mapM ipv4Number?
  let last ← numbers.getLast?
  let leading := numbers.dropLast
  let place := Nat.pow 256 (4 - leading.length)
  if 3 < leading.length ∨ leading.any (255 < ·) ∨ place ≤ last then none
  else some (leading.foldl (fun n byte => 256 * n + byte) 0 * place + last)

/-! ## Eight numbers -/

def ipv6Group? (s : List Char) : Option Nat :=
  if s.isEmpty || decide (4 < s.length) then none else numberIn? 16 s

/-- One of the four numbers that may end an address: at most 255, without leading zeros. -/
def ipv6Byte? (s : List Char) : Option Nat := do
  let n ← Ascii.number? s
  if 255 < n ∨ (1 < s.length ∧ s.head? = some '0') then none else some n

def ipv6Dotted? (s : List Char) : Option (List Nat) := do
  match ← (Text.pieces '.' s).mapM ipv6Byte? with
  | [a, b, c, d] => some [256 * a + b, 256 * c + d]
  | _ => none

/-- The groups of a stretch between colons; only the end of an address may be dotted. -/
def ipv6Groups? (final : Bool) : List (List Char) → Option (List Nat)
  | [] => some []
  | [s] => if final && s.contains '.' then ipv6Dotted? s else (ipv6Group? s).map ([·])
  | s :: rest => do
      let group ← ipv6Group? s
      let groups ← ipv6Groups? final rest
      some (group :: groups)

def ipv6Side? (final : Bool) (s : List Char) : Option (List Nat) :=
  if s.isEmpty then some [] else ipv6Groups? final (Text.pieces ':' s)

def doubleColon? : List Char → Option (List Char × List Char)
  | ':' :: ':' :: s => some ([], s)
  | c :: s => (doubleColon? s).map fun (a, b) => (c :: a, b)
  | [] => none

def ipv6? (s : List Char) : Option (List Nat) :=
  match doubleColon? s with
  | some (left, right) => do
      let before ← ipv6Side? false left
      let after ← ipv6Side? true right
      if 7 < before.length + after.length then none
      else some (before ++ List.replicate (8 - before.length - after.length) 0 ++ after)
  | none => do
      let groups ← ipv6Side? true s
      if groups.length = 8 then some groups else none

end RequestUploads.Uri
