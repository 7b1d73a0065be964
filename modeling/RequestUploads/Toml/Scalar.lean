import RequestUploads.Text.Ascii
import RequestUploads.Text.Pieces

namespace RequestUploads.Toml.Scalar

def isChar (c : Char) : Bool := c.isAlphanum || ['+', '-', '.', ':', '_'].contains c

/-! ## Numbers -/

/-- Digits of a base, with single underscores between them: the digits alone. -/
def groupedDigits? (isDigit : Char → Bool) (s : List Char) : Option (List Char) :=
  let groups := Text.pieces '_' s
  if groups.all fun group => !group.isEmpty && group.all isDigit then some groups.flatten
  else none

def valueOf (base : Nat) (digits : List Char) : Nat :=
  digits.foldl (fun n c => base * n + (Ascii.hexValue? c).getD 0) 0

def unsigned : List Char → Bool × List Char
  | '-' :: s => (true, s)
  | '+' :: s => (false, s)
  | s => (false, s)

def wholeDigits? (s : List Char) : Option (List Char) := do
  let digits ← groupedDigits? Char.isDigit s
  if digits.head? = some '0' ∧ digits ≠ ['0'] then none else some digits

def decimal? (s : List Char) : Option Int := do
  let (negative, digits) := unsigned s
  let n := valueOf 10 (← wholeDigits? digits)
  if negative then (if n ≤ Nat.pow 2 63 then some (-(n : Int)) else none)
  else if n < Nat.pow 2 63 then some n else none

def based? (base : Nat) (isDigit : Char → Bool) (s : List Char) : Option Int := do
  let n := valueOf base (← groupedDigits? isDigit s)
  if n < Nat.pow 2 63 then some (n : Int) else none

def integer? (s : List Char) : Option Int :=
  match s with
  | '0' :: 'x' :: s => based? 16 (fun c => (Ascii.hexValue? c).isSome) s
  | '0' :: 'o' :: s => based? 8 (fun c => decide ('0' ≤ c ∧ c ≤ '7')) s
  | '0' :: 'b' :: s => based? 2 (fun c => c = '0' || c = '1') s
  | s => decimal? s

def isExponent (s : List Char) : Bool :=
  (groupedDigits? Char.isDigit (unsigned s).2).isSome

def splitExponent (s : List Char) : List Char × Option (List Char) :=
  match Text.cut? 'e' s with
  | some (mantissa, exponent) => (mantissa, some exponent)
  | none => match Text.cut? 'E' s with
    | some (mantissa, exponent) => (mantissa, some exponent)
    | none => (s, none)

def isFloat (s : List Char) : Bool :=
  let digits := (unsigned s).2
  if digits = "inf".toList ∨ digits = "nan".toList then true
  else
    let (mantissa, exponent) := splitExponent digits
    let sound := (exponent.map isExponent).getD true
    match Text.cut? '.' mantissa with
    | some (whole, fraction) =>
        sound && (wholeDigits? whole).isSome && (groupedDigits? Char.isDigit fraction).isSome
    | none => sound && exponent.isSome && (wholeDigits? mantissa).isSome

/-! ## Dates -/

def fixed? (count : Nat) (s : List Char) : Option Nat :=
  if s.length = count then Ascii.number? s else none

def daysIn (year month : Nat) : Nat :=
  if month = 2 then
    (if year % 4 = 0 ∧ (year % 100 ≠ 0 ∨ year % 400 = 0) then 29 else 28)
  else if [4, 6, 9, 11].contains month then 30
  else 31

def isDate (s : List Char) : Bool :=
  match Text.pieces '-' s with
  | [year, month, day] => match fixed? 4 year, fixed? 2 month, fixed? 2 day with
    | some year, some month, some day =>
        decide (1 ≤ month ∧ month ≤ 12 ∧ 1 ≤ day ∧ day ≤ daysIn year month)
    | _, _, _ => false
  | _ => false

def isHourMinute (s : List Char) : Bool :=
  match Text.pieces ':' s with
  | [hour, minute] => match fixed? 2 hour, fixed? 2 minute with
    | some hour, some minute => decide (hour ≤ 23 ∧ minute ≤ 59)
    | _, _ => false
  | _ => false

def isSecond (s : List Char) : Bool :=
  let (whole, fraction) := match Text.cut? '.' s with
    | some (whole, fraction) => (whole, some fraction)
    | none => (s, none)
  ((fixed? 2 whole).any fun second => decide (second ≤ 60))
    && (fraction.map fun digits => !digits.isEmpty && digits.all Char.isDigit).getD true

def isTime (s : List Char) : Bool :=
  isHourMinute (s.take 5) && (s.drop 5).head? = some ':' && isSecond (s.drop 6)

def isOffsetTime (s : List Char) : Bool :=
  isTime s
    || ((s.getLast? = some 'Z' || s.getLast? = some 'z') && isTime s.dropLast)
    || (let offset := s.drop (s.length - 6)
        (offset.head? = some '+' || offset.head? = some '-') && isHourMinute (offset.drop 1)
          && isTime (s.take (s.length - 6)))

def isDateTime (s : List Char) : Bool :=
  isDate s || isTime s
    || (isDate (s.take 10) && ((s.drop 10).head? = some 'T' || (s.drop 10).head? = some 't')
      && isOffsetTime (s.drop 11))

end RequestUploads.Toml.Scalar
