import RequestUploads.Domain.CharacterMap
import RequestUploads.Domain.Punycode
import RequestUploads.Domain.Script
import RequestUploads.Text.Ascii

namespace RequestUploads.Domain

def isForbidden (c : Char) : Bool :=
  decide (c.toNat ≤ 0x20) || decide (c.toNat = 0x7F) || "%#/:<>?@[\\]^|".toList.contains c

def marker : List Char := "xn--".toList

def isAscii (s : List Char) : Bool := s.all fun c => decide (c.toNat < 0x80)

def longestSpelled : Nat := 1000

def isSound (label : List Char) : Bool :=
  label.all (fun c => mapping c = .kept)
    && !(label.head?.any isMark)
    && joinersInPlace [] label

structure Label where
  reading : List Char
  spelling : List Char

def Label.ofMapped? (s : List Char) : Option Label :=
  if marker.isPrefixOf s then do
    if !isAscii s then none
    let reading ← Punycode.decode? (s.drop marker.length)
    if isAscii reading || compose reading ≠ reading || marker.isPrefixOf reading
        || reading.contains '.' || !isSound reading then none
    else some ⟨reading, s⟩
  else if isAscii s then some ⟨s, s⟩
  else if isSound s && decide (s.length ≤ longestSpelled) then
    some ⟨s, marker ++ Punycode.encode s⟩
  else none

def spellLabels? (name : List Char) : Option (List Char) := do
  let mapped ← mapped? name
  let labels ← (Text.pieces '.' (compose mapped)).mapM Label.ofMapped?
  let mixed := labels.any fun label => label.reading.any runsLeft
  if mixed && !labels.all (fun label => isOneDirection label.reading) then none
  else some (Text.join '.' (labels.map (·.spelling)))

/-- Whether the labels of a name are ASCII and none is spelled in Punycode, so that nothing is left
to map, compose or check. -/
def isPlain (name : List Char) : Bool :=
  isAscii name && !(Text.pieces '.' name).any marker.isPrefixOf

def toAscii? (name : List Char) : Option (List Char) := do
  let small := Ascii.lower name
  let spelling ← if isPlain small then some small else spellLabels? name
  if spelling.any isForbidden then none else some spelling

theorem toAscii?_of_isPlain {name : List Char} (plain : isPlain (Ascii.lower name) = true)
    (free : (Ascii.lower name).any isForbidden = false) :
    toAscii? name = some (Ascii.lower name) := by
  simp only [toAscii?, plain, if_true, Option.bind_eq_bind, Option.bind_some, free]
  rfl

end RequestUploads.Domain
