import RequestUploads.FileTree.Path

/-!
# File trees

Directories and files by their location, which is the list of names from the root, a working
directory, and the accesses that are refused.  `FileTree.get?` is the view of a tree; `put` and
`drop` change it at one location (`get?_put_self`, `get?_put_of_ne`, `get?_drop_of_ne`).
-/

namespace RequestUploads

abbrev Location := List String

inductive Node
  | directory
  | file (content : List UInt8)
deriving DecidableEq, Repr

/-- What is done at a location.  Paths lead on from a directory by `search`; `write` puts something
there, be it new or not. -/
inductive Access
  | search
  | read
  | write
  | remove
deriving DecidableEq, Repr

/-- An access that fails at a location whatever is there, for lack of permission or another reason
of the system. -/
structure Refusal where
  access : Access
  location : Location
  reason : String
deriving DecidableEq, Repr

structure FileTree where
  nodes : List (Location × Node)
  working : Location
  refusals : List Refusal
deriving Repr

namespace FileTree

/-! ## Single locations -/

def find? (location : Location) : List (Location × Node) → Option Node
  | [] => none
  | (other, node) :: nodes => if other = location then some node else find? location nodes

def get? (t : FileTree) (location : Location) : Option Node :=
  if location = [] then some .directory else find? location t.nodes

def put (t : FileTree) (location : Location) (node : Node) : FileTree :=
  { t with nodes := (location, node) :: t.nodes.filter (·.1 ≠ location) }

def drop (t : FileTree) (location : Location) : FileTree :=
  { t with nodes := t.nodes.filter (·.1 ≠ location) }

def dropAll (t : FileTree) (location : Location) : FileTree :=
  { t with nodes := t.nodes.filter fun entry => !location.isPrefixOf entry.1 }

theorem find?_filter_of_ne {location other : Location} (differ : other ≠ location)
    (nodes : List (Location × Node)) :
    find? other (nodes.filter (·.1 ≠ location)) = find? other nodes := by
  induction nodes with
  | nil => rfl
  | cons entry nodes ih =>
      obtain ⟨key, node⟩ := entry
      by_cases same : key = location
      · subst same; simpa [find?, differ.symm] using ih
      · simp only [ne_eq, decide_not, same, decide_false, Bool.not_false,
          List.filter_cons_of_pos, find?]
        simp only [ne_eq, decide_not] at ih
        rw [ih]

theorem get?_put_self {t : FileTree} {location : Location} (inner : location ≠ []) (node : Node) :
    (t.put location node).get? location = some node := by
  simp [get?, put, find?, inner]

theorem get?_put_of_ne {t : FileTree} {location other : Location} (differ : other ≠ location)
    (node : Node) : (t.put location node).get? other = t.get? other := by
  simp only [get?, put, find?, differ.symm, if_false, find?_filter_of_ne differ]

theorem get?_drop_of_ne {t : FileTree} {location other : Location} (differ : other ≠ location) :
    (t.drop location).get? other = t.get? other := by
  simp only [get?, drop, find?_filter_of_ne differ]

/-! ## Refusals -/

def refusal? (t : FileTree) (access : Access) (location : Location) : Option String :=
  (t.refusals.find? fun refusal => refusal.access = access ∧ refusal.location = location).map
    (·.reason)

def permit (t : FileTree) (access : Access) (location : Location) : Except FileError Unit :=
  match t.refusal? access location with
  | none => .ok ()
  | some reason => .error (.other reason)

/-! ## Following paths -/

/-- Follows names from a location.  Each name is looked up in a directory; the last one need not
be there. -/
def walk (t : FileTree) : Location → List String → Except FileError Location
  | here, [] => .ok here
  | here, name :: names =>
      match t.get? here with
      | none => .error .notFound
      | some (.file _) => .error .notDirectory
      | some .directory => do
          t.permit .search here
          if name = "." then t.walk here names
          else if name = ".." then t.walk here.dropLast names
          else if FilePath.longestName < Utf8.size name.toList then .error .nameTooLong
          else t.walk (here ++ [name]) names

def start (t : FileTree) (p : FilePath) : Location := if p.absolute then [] else t.working

def locate (t : FileTree) (path : String) : Except FileError Location :=
  if path.toList.contains '\x00' then .error .nulInPath
  else if path.isEmpty then .error .notFound
  else if FilePath.longest < Utf8.size path.toList then .error .nameTooLong
  else t.walk (t.start (FilePath.ofText path)) (FilePath.ofText path).names

def lookup (t : FileTree) (path : String) : Except FileError (Location × Node) := do
  let location ← t.locate path
  match t.get? location with
  | none => .error .notFound
  | some .directory => .ok (location, .directory)
  | some (.file content) =>
      if (FilePath.ofText path).slashed then .error .notDirectory
      else .ok (location, .file content)

def hasPath (t : FileTree) (path : String) : Bool := (t.lookup path).toBool

/-! ## Operations -/

def read (t : FileTree) (path : String) : Except FileError (List UInt8) := do
  let (location, node) ← t.lookup path
  t.permit .read location
  match node with
  | .file content => .ok content
  | .directory => .error .isDirectory

def write (t : FileTree) (path : String) (content : List UInt8) : Except FileError FileTree := do
  let location ← t.locate path
  if (FilePath.ofText path).slashed ∨ t.get? location = some .directory then .error .isDirectory
  else do
    t.permit .write location
    return t.put location (.file content)

def remove (t : FileTree) (path : String) : Except FileError FileTree := do
  let (location, node) ← t.lookup path
  t.permit .remove location
  match node with
  | .file _ => .ok (t.drop location)
  | .directory => .error .isDirectory

def makeDirectory (t : FileTree) (origin : Location) (names : List String) :
    Except FileError FileTree := do
  let location ← t.walk origin names
  let named := names.getLast?.any fun name => decide (name ≠ "." ∧ name ≠ "..")
  match t.get? location with
  | some _ => .error .alreadyExists
  | none =>
      if named then do
        t.permit .write location
        return t.put location .directory
      else .error .notFound

def isDirectory (t : FileTree) (origin : Location) (names : List String) : Bool :=
  match t.walk origin names with
  | .ok location => t.get? location = some .directory
  | .error _ => false

/-- What comes of making directories: whether it failed, and the tree then. -/
abbrev Making := Except FileError Unit × FileTree

def makeOne (t : FileTree) (origin : Location) (names : List String) : Making :=
  match t.makeDirectory origin names with
  | .ok made => (.ok (), made)
  | .error failure => (if t.isDirectory origin names then .ok () else .error failure, t)

def makeUpTo (t : FileTree) (origin : Location) : (reversed : List String) → Making
  | [] => (.ok (), t)
  | name :: before =>
      match t.makeDirectory origin (name :: before).reverse with
      | .error .notFound => match t.makeUpTo origin before with
        | (.ok (), t) => t.makeOne origin (name :: before).reverse
        | failed => failed
      | _ => t.makeOne origin (name :: before).reverse

def makeDirectories (t : FileTree) (p : FilePath) : Making :=
  match p.fault? with
  | some failure => (.error failure, t)
  | none => t.makeUpTo (t.start p) p.moves.reverse

def makeParents (t : FileTree) (path : String) : Making :=
  let p := FilePath.ofText path
  t.makeDirectories { p with names := p.moves.dropLast }

/-! ## Listing -/

def pathOf (entry : Location × Node) : String :=
  "/".intercalate entry.1 ++ (if entry.2 = .directory then "/" else "")

def listing (t : FileTree) (location : Location) : List String :=
  let below := t.nodes.filterMap fun (other, node) =>
    if location.isPrefixOf other ∧ location ≠ other then
      some (pathOf (other.drop location.length, node))
    else none
  below.mergeSort fun a b => decide (a ≤ b)

end FileTree

end RequestUploads
