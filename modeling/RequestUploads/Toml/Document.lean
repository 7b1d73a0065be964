import RequestUploads.Toml.Item
import RequestUploads.Toml.Quoted
import RequestUploads.Toml.Scalar

namespace RequestUploads.Toml

/-! ## Blanks and comments -/

def isSpace (c : Char) : Bool := c = ' ' || c = '\t'

def skipSpace (s : List Char) : List Char := s.dropWhile isSpace

def endLine : (comment : Bool) → List Char → Option (List Char)
  | _, [] => some []
  | _, '\n' :: s => some s
  | _, '\r' :: '\n' :: s => some s
  | true, c :: s => if Quoted.isPlain c then endLine true s else none
  | false, c :: s =>
      if isSpace c then endLine false s
      else if c = '#' then endLine true s
      else none

def skipLines : (comment : Bool) → List Char → Option (List Char)
  | _, [] => some []
  | _, '\n' :: s => skipLines false s
  | _, '\r' :: '\n' :: s => skipLines false s
  | true, c :: s => if Quoted.isPlain c then skipLines true s else none
  | false, c :: s =>
      if isSpace c then skipLines false s
      else if c = '#' then skipLines true s
      else some (c :: s)

/-! ## Keys -/

def isKeyChar (c : Char) : Bool := c.isAlphanum || c = '_' || c = '-'

def simpleKey? (s : List Char) : Option (String × List Char) :=
  if s.head? = some '"' ∨ s.head? = some '\'' then
    (Quoted.readShort? s).map fun (key, rest) => (String.ofList key, rest)
  else
    let key := s.takeWhile isKeyChar
    if key.isEmpty then none else some (String.ofList key, s.dropWhile isKeyChar)

/-- Keys with dots between them: those before the last one, the last one, and what follows.
`fuel` bounds how many there are. -/
def dottedKey? : (fuel : Nat) → List Char → Option (List String × String × List Char)
  | 0, _ => none
  | fuel + 1, s => do
      let (key, rest) ← simpleKey? (skipSpace s)
      match skipSpace rest with
      | '.' :: rest => do
          let (path, last, rest) ← dottedKey? fuel rest
          return (key :: path, last, rest)
      | rest => return ([], key, rest)

def key? (s : List Char) : Option (List String × String × List Char) :=
  dottedKey? (s.length + 1) s

/-! ## Values -/

def scalar? (s : List Char) : Option (Item × List Char) :=
  let run := s.takeWhile Scalar.isChar
  let rest := s.dropWhile Scalar.isChar
  if run = "true".toList then some (.flag true, rest)
  else if run = "false".toList then some (.flag false, rest)
  else
    let time := (rest.drop 1).takeWhile Scalar.isChar
    if Scalar.isDate run ∧ rest.head? = some ' ' ∧ Scalar.isOffsetTime time then
      some (.scalar, (rest.drop 1).dropWhile Scalar.isChar)
    else if (Scalar.integer? run).isSome || Scalar.isFloat run || Scalar.isDateTime run then
      some (.scalar, rest)
    else none

def arrayItems? (item : List Char → Option (Item × List Char)) :
    (fuel : Nat) → List Char → Option (List Item × List Char)
  | 0, _ => none
  | fuel + 1, s => do
      match ← skipLines false s with
      | ']' :: rest => return ([], rest)
      | s => do
          let (first, rest) ← item s
          match ← skipLines false rest with
          | ',' :: rest => do
              let (later, rest) ← arrayItems? item fuel rest
              return (first :: later, rest)
          | ']' :: rest => return ([first], rest)
          | _ => none

def keyValue? (item : List Char → Option (Item × List Char)) (s : List Char) :
    Option ((List String × String × Item) × List Char) := do
  let (path, key, rest) ← key? s
  match rest with
  | '=' :: rest => do
      let (value, rest) ← item (skipSpace rest)
      return ((path, key, value), rest)
  | _ => none

def inlineEntries? (item : List Char → Option (Item × List Char)) :
    (fuel : Nat) → Entries → List Char → Option (Entries × List Char)
  | 0, _, _ => none
  | fuel + 1, entries, s => do
      let ((path, key, value), rest) ← keyValue? item s
      let entries ← entries.defineItem path key value
      match skipSpace rest with
      | ',' :: rest => inlineEntries? item fuel entries rest
      | '\x7d' :: rest => return (entries, rest)
      | _ => none

def deepest : Nat := 79

def value? : (depth : Nat) → List Char → Option (Item × List Char)
  | depth, s =>
      match s with
      | [] => none
      | c :: rest =>
          if c = '"' ∨ c = '\'' then
            (Quoted.read? s).map fun (content, rest) => (.text (String.ofList content), rest)
          else match depth with
            | 0 => scalar? s
            | depth + 1 =>
                if c = '[' then
                  (arrayItems? (value? depth) (rest.length + 1) rest).map fun (items, rest) =>
                    (.array items, rest)
                else if c = '\x7b' then
                  match skipSpace rest with
                  | '\x7d' :: rest => some (.inlineTable [], rest)
                  | rest =>
                      (inlineEntries? (value? depth) (rest.length + 1) [] rest).map
                        fun (entries, rest) => (.inlineTable entries, rest)
                else scalar? s

/-! ## Lines -/

structure Reader where
  entries : Entries
  path : List String

def header? (closing : List Char) (s : List Char) :
    Option (List String × String × List Char) := do
  let (path, key, rest) ← key? s
  if closing.isPrefixOf rest then some (path, key, rest.drop closing.length) else none

def Reader.define? (r : Reader) (path : List String) (key : String) (item : Item) :
    Option Reader := do
  let entries ← Entries.descend? .passed (Entries.defineItem path key item) r.path r.entries
  return { r with entries := entries }

def Reader.line? (r : Reader) (s : List Char) : Option (Reader × List Char) :=
  match skipSpace s with
  | '[' :: '[' :: s => do
      let (path, key, rest) ← header? [']', ']'] s
      let entries ← r.entries.defineElement path key
      return (⟨entries, path ++ [key]⟩, ← endLine false rest)
  | '[' :: s => do
      let (path, key, rest) ← header? [']'] s
      let entries ← r.entries.defineTable path key
      return (⟨entries, path ++ [key]⟩, ← endLine false rest)
  | s =>
      match endLine false s with
      | some rest => some (r, rest)
      | none => do
          let ((path, key, item), rest) ← keyValue? (value? deepest) s
          return (← r.define? path key item, ← endLine false rest)

/-- Reads all lines; `fuel` bounds how many there are. -/
def Reader.lines? : (fuel : Nat) → Reader → List Char → Option Reader
  | _, r, [] => some r
  | 0, _, _ :: _ => none
  | fuel + 1, r, s => do
      let (r, rest) ← r.line? s
      Reader.lines? fuel r rest

/-- The entries of a document.  A mark of the byte order at its front is passed over. -/
def parse (s : List Char) : Option Entries :=
  let s := match s with
    | '\uFEFF' :: s => s
    | s => s
  (Reader.lines? (s.length + 1) ⟨[], []⟩ s).map (·.entries)

end RequestUploads.Toml
