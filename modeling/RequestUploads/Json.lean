import RequestUploads.Text.Ascii

namespace RequestUploads

inductive Json
  | text (content : String)
  | number (value : Nat)
  | flag (value : Bool)
  | list (items : List Json)
  | object (fields : List (String × Json))
deriving Repr

namespace Json

/-! ## Quoting -/

def escape (c : Char) : List Char :=
  if c = '"' then ['\\', '"']
  else if c = '\\' then ['\\', '\\']
  else if c = '\x08' then ['\\', 'b']
  else if c = '\x0c' then ['\\', 'f']
  else if c = '\n' then ['\\', 'n']
  else if c = '\r' then ['\\', 'r']
  else if c = '\t' then ['\\', 't']
  else if c.toNat < 0x20 then
    ['\\', 'u', '0', '0', Ascii.hexDigit (c.toNat / 16), Ascii.hexDigit (c.toNat % 16)]
  else [c]

def quote (s : List Char) : List Char := '"' :: s.flatMap escape ++ ['"']

/-! ## Layout -/

def indent (level : Nat) : List Char := List.replicate (2 * level) ' '

def enclose (opening closing : Char) (level : Nat) : List (List Char) → List Char
  | [] => [opening, closing]
  | lines =>
      let inner := lines.map (indent (level + 1) ++ ·)
      opening :: '\n' :: [',', '\n'].intercalate inner ++ '\n' :: indent level ++ [closing]

mutual

def write (level : Nat) : Json → List Char
  | .text content => quote content.toList
  | .number value => Ascii.digits value
  | .flag value => (if value then "true" else "false").toList
  | .list items => enclose '[' ']' level (writeItems (level + 1) items)
  | .object fields => enclose '\x7b' '\x7d' level (writeFields (level + 1) fields)

def writeItems (level : Nat) : List Json → List (List Char)
  | [] => []
  | item :: items => write level item :: writeItems level items

def writeFields (level : Nat) : List (String × Json) → List (List Char)
  | [] => []
  | (name, value) :: fields =>
      (quote name.toList ++ ':' :: ' ' :: write level value) :: writeFields level fields

end

def pretty (value : Json) : String := String.ofList (write 0 value)

end Json

end RequestUploads
