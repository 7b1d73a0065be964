namespace RequestUploads.Ascii

def lower (s : List Char) : List Char := s.map Char.toLower

@[simp] theorem lower_nil : lower [] = [] := rfl

@[simp] theorem lower_cons (c : Char) (s : List Char) : lower (c :: s) = c.toLower :: lower s := rfl

@[simp] theorem length_lower (s : List Char) : (lower s).length = s.length := by simp [lower]

def sameIgnoringCase (s t : List Char) : Bool := lower s == lower t

@[simp] theorem sameIgnoringCase_iff {s t : List Char} :
    sameIgnoringCase s t = true ↔ lower s = lower t := by simp [sameIgnoringCase]

def dropIgnoringCase? : (head s : List Char) → Option (List Char)
  | [], s => some s
  | _ :: _, [] => none
  | h :: head, c :: s => if h.toLower = c.toLower then dropIgnoringCase? head s else none

def hexValue? (c : Char) : Option Nat :=
  if '0' ≤ c ∧ c ≤ '9' then some (c.toNat - '0'.toNat)
  else if 'a' ≤ c ∧ c ≤ 'f' then some (c.toNat - 'a'.toNat + 10)
  else if 'A' ≤ c ∧ c ≤ 'F' then some (c.toNat - 'A'.toNat + 10)
  else none

def hexDigit (n : Nat) : Char := "0123456789abcdef".toList.getD n '0'

def capitalHexDigit (n : Nat) : Char := "0123456789ABCDEF".toList.getD n '0'

theorem hexValue?_hexDigit : ∀ n < 16, hexValue? (hexDigit n) = some n := by decide

theorem hexValue?_capitalHexDigit : ∀ n < 16, hexValue? (capitalHexDigit n) = some n := by decide

def hexDigits (n : Nat) : List Char := Nat.toDigits 16 n

def digits (n : Nat) : List Char := Nat.toDigits 10 n

/-- The number that a run of decimal digits denotes; none for an empty run or another character. -/
def number? (s : List Char) : Option Nat :=
  if s.isEmpty || !s.all Char.isDigit then none
  else some (s.foldl (fun n c => 10 * n + (c.toNat - '0'.toNat)) 0)

end RequestUploads.Ascii
