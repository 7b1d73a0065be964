import RequestUploads.Domain.Table
import RequestUploads.Domain.Data.Mapping

namespace RequestUploads.Domain

inductive Mapping
  | kept
  | spelled (spelling : List Char)
  | refused
deriving DecidableEq

private def refused : Table := Table.ofLines Data.refused
private def ignored : Table := Table.ofLines Data.ignored
private def shifted : Table := Table.ofLines Data.shifted
private def paired : Table := Table.ofLines Data.paired

private def Entry.withSpellings (entry : Entry) : Nat × List (List Char) :=
  (entry.first, (Text.pieces ',' entry.value).map fun spelling =>
    (Text.pieces '+' spelling).map fun code => Char.ofNat (hexNumber code))

private def spelled : List (Nat × List (List Char)) :=
  (Table.ofLines Data.spelled).map Entry.withSpellings

private def spelling? (c : Char) : Option (List Char) :=
  spelled.findSome? fun (first, spellings) =>
    if first ≤ c.toNat then spellings[c.toNat - first]? else none

def tableMapping (c : Char) : Mapping :=
  if refused.has c then .refused
  else if ignored.has c then .spelled []
  else match shifted.find? c with
    | some entry => .spelled [Char.ofNat (hexNumber entry.value + (c.toNat - entry.first))]
    | none => match paired.find? c with
      | some entry =>
          if (c.toNat - entry.first) % 2 = 0 then .spelled [Char.ofNat (c.toNat + 1)] else .kept
      | none => match spelling? c with
        | some spelling => .spelled spelling
        | none => .kept

def mapping (c : Char) : Mapping :=
  if c.toNat < 0x80 then (if c.isUpper then .spelled [c.toLower] else .kept)
  else tableMapping c

def mapped? : List Char → Option (List Char)
  | [] => some []
  | c :: s => match mapping c with
    | .refused => none
    | .kept => (mapped? s).map (c :: ·)
    | .spelled spelling => (mapped? s).map (spelling ++ ·)

end RequestUploads.Domain
