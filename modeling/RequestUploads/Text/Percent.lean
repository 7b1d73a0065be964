import RequestUploads.Text.Ascii
import RequestUploads.Text.Utf8

namespace RequestUploads.Percent

def digit? (b : UInt8) : Option UInt8 :=
  (Ascii.hexValue? (Char.ofNat b.toNat)).map UInt8.ofNat

def unescape : List UInt8 → List UInt8
  | [] => []
  | [b] => [b]
  | [a, b] => [a, b]
  | a :: b :: c :: rest =>
      if a = 0x25 then
        match digit? b, digit? c with
        | some high, some low => (16 * high + low) :: unescape rest
        | _, _ => a :: unescape (b :: c :: rest)
      else a :: unescape (b :: c :: rest)

def decode (s : List Char) : List Char := Utf8.decodeLossy (unescape (Utf8.encode s))

def escape (b : UInt8) : List Char :=
  ['%', Ascii.capitalHexDigit (b.toNat / 16), Ascii.capitalHexDigit (b.toNat % 16)]

def escapeChar (c : Char) : List Char := (Utf8.encodeChar c).flatMap escape

def encode (set : Char → Bool) (s : List Char) : List Char :=
  s.flatMap fun c => if set c || decide (0x80 ≤ c.toNat) then escapeChar c else [c]

@[simp] theorem encode_nil (set : Char → Bool) : encode set [] = [] := rfl

end RequestUploads.Percent
