import RequestUploads.Domain.Composition
import RequestUploads.Domain.Data.Script

namespace RequestUploads.Domain

private def direction : Table := Table.ofLines Data.direction
private def joining : Table := Table.ofLines Data.joining
private def marks : Table := Table.ofLines Data.marks

def isMark (c : Char) : Bool := marks.has c

/-! ## Direction -/

def directionOf (c : Char) : String :=
  match direction.value? c with
  | some name => String.ofList name
  | none => "L"

def runsLeft (c : Char) : Bool := ["R", "AL", "AN"].contains (directionOf c)

def withoutFinalMarks (classes : List String) : List String :=
  (classes.reverse.dropWhile (· = "NSM")).reverse

def isOneDirection (label : List Char) : Bool :=
  let classes := label.map directionOf
  let final := ((withoutFinalMarks classes).getLast?).getD ""
  match classes.head? with
  | none => true
  | some first =>
      if first = "R" ∨ first = "AL" then
        classes.all (["R", "AL", "AN", "EN", "ES", "CS", "ET", "ON", "BN", "NSM"].contains ·)
          && ["R", "AL", "EN", "AN"].contains final
          && !(classes.contains "EN" && classes.contains "AN")
      else if first = "L" then
        classes.all (["L", "EN", "ES", "CS", "ET", "ON", "BN", "NSM"].contains ·)
          && ["L", "EN"].contains final
      else false

/-! ## Joiners -/

def joiningOf (c : Char) : Char := ((joining.value? c).bind (·.head?)).getD 'U'

def firstJoining (s : List Char) : Char := ((s.map joiningOf).find? (· ≠ 'T')).getD 'U'

/-- Whether each joiner of the text is in place; `before` is what precedes, in reverse. -/
def joinersInPlace (before : List Char) : List Char → Bool
  | [] => true
  | c :: s =>
      let afterVirama := match before with
        | [] => false
        | d :: _ => decide (combiningClass d = 9)
      let fits :=
        if c = '\u200C' then
          afterVirama
            || (['L', 'D'].contains (firstJoining before) && ['R', 'D'].contains (firstJoining s))
        else if c = '\u200D' then afterVirama
        else true
      fits && joinersInPlace (c :: before) s

end RequestUploads.Domain
