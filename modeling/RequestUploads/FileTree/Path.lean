import RequestUploads.FileTree.Error
import RequestUploads.Text.Pieces
import RequestUploads.Text.Utf8

namespace RequestUploads

/-- A path taken apart: where it starts, the names it leads through, and whether it ends in a
slash, so that only a directory can be meant. -/
structure FilePath where
  absolute : Bool
  names : List String
  slashed : Bool
deriving DecidableEq, Repr

namespace FilePath

def ofText (text : String) : FilePath where
  absolute := text.toList.head? = some '/'
  names := ((Text.pieces '/' text.toList).filter (· ≠ [])).map String.ofList
  slashed := text.toList.getLast? = some '/'

def moves (p : FilePath) : List String := p.names.filter (· ≠ ".")

def lastName? (text : String) : Option String :=
  match (ofText text).moves.getLast? with
  | some name => if name = ".." then none else some name
  | none => none

def extension? (name : String) : Option String :=
  let backward := name.toList.reverse
  match backward.dropWhile (· ≠ '.') with
  | _ :: _ :: _ => some (String.ofList (backward.takeWhile (· ≠ '.')).reverse)
  | _ => none

def under (directory name : String) : String :=
  if directory.toList.getLast? = some '/' then directory ++ name else directory ++ "/" ++ name

def longest : Nat := 4095

def longestName : Nat := 255

def size (p : FilePath) : Nat :=
  Utf8.size (p.names.flatMap fun name => '/' :: name.toList) - (if p.absolute then 0 else 1)

def fault? (p : FilePath) : Option FileError :=
  if p.names.any fun name => name.toList.contains '\x00' then some .nulInPath
  else if longest < p.size then some .nameTooLong
  else none

end FilePath

end RequestUploads
