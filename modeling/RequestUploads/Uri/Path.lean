import RequestUploads.Text.Percent
import RequestUploads.Text.Pieces
import RequestUploads.Uri.Charset

/-!
# Paths

The segments of a path are escaped, and `.` and `..` are resolved, also where their dots are
escaped.  Under the scheme `file` a first segment such as `C:` or `C|` names a drive: it is never
left by `..` and it takes the place of a host.
-/

namespace RequestUploads.Uri

inductive SchemeKind
  | plain
  | special
  | file
deriving DecidableEq, Repr

def SchemeKind.of (scheme : List Char) : SchemeKind :=
  let name := String.ofList scheme
  if name = "file" then .file
  else if ["http", "https", "ws", "wss", "ftp"].contains name then .special
  else .plain

def isSlash (kind : SchemeKind) (c : Char) : Bool := c = '/' || (c = '\\' && kind ≠ .plain)

def isSingleDot (s : List Char) : Bool := [".", "%2e"].contains (String.ofList (Ascii.lower s))

def isDoubleDot (s : List Char) : Bool :=
  ["..", "%2e.", ".%2e", "%2e%2e"].contains (String.ofList (Ascii.lower s))

def isDrive : List Char → Bool
  | [c, d] => c.isAlpha && (d = ':' || d = '|')
  | _ => false

/-- The segments so far, last first, and whether a drive was found in place of a host. -/
structure Walk where
  done : List (List Char)
  drive : Bool

def Walk.up (walk : Walk) : Walk :=
  match walk.done with
  | [] => walk
  | last :: before => if isDrive last then walk else { walk with done := before }

def Walk.down (kind : SchemeKind) (walk : Walk) (segment : List Char) : Walk :=
  if kind = .file ∧ walk.done = [] then
    match segment with
    | [c, d] =>
        if isDrive [c, d] then ⟨[[c, ':']], true⟩ else { walk with done := [segment] }
    | c :: ':' :: s =>
        if c.isAlpha then { walk with done := [s, [c, ':']] } else { walk with done := [segment] }
    | _ => { walk with done := [segment] }
  else { walk with done := segment :: walk.done }

/-- Goes through escaped segments; a dot segment at the end leaves an empty one. -/
def Walk.through (kind : SchemeKind) : Walk → List (List Char) → Walk
  | walk, [] => walk
  | walk, [last] =>
      if isDoubleDot last then { walk.up with done := [] :: walk.up.done }
      else if isSingleDot last then { walk with done := [] :: walk.done }
      else walk.down kind last
  | walk, segment :: rest =>
      if isDoubleDot segment then Walk.through kind walk.up rest
      else if isSingleDot segment then Walk.through kind walk rest
      else Walk.through kind (walk.down kind segment) rest

def rawSegments (kind : SchemeKind) (s : List Char) : List (List Char) :=
  Text.pieces '/' (s.map fun c => if isSlash kind c then '/' else c)

/-- The segments of a path after its first slash, and whether they begin with a drive in place of
a host. -/
def segments (kind : SchemeKind) (s : List Char) : List (List Char) × Bool :=
  let walk := Walk.through kind ⟨[], false⟩ ((rawSegments kind s).map (Percent.encode inPath))
  let found := walk.done.reverse
  if kind = .file then
    match found.dropWhile (·.isEmpty) with
    | [] => ([[]], walk.drive)
    | kept => (kept, walk.drive)
  else (found, walk.drive)

end RequestUploads.Uri
