/-!
# Documents as tables

A document is a table of items under keys.  Tables come about in three ways, which decide how they
may be extended: by a header, as a step on the way of a header, or by a dotted key.  `defineTable`
and `defineElement` act for headers, `defineItem` for a key and a value.
-/

namespace RequestUploads.Toml

inductive TableKind
  | header
  | passed
  | dotted
deriving DecidableEq, Repr

/-- What stands under a key.  `scalar` is any number or date. -/
inductive Item
  | text (content : String)
  | flag (value : Bool)
  | scalar
  | array (items : List Item)
  | inlineTable (entries : List (String × Item))
  | table (kind : TableKind) (entries : List (String × Item))
  | tables (elements : List (List (String × Item)))
deriving Repr

abbrev Entries := List (String × Item)

namespace Entries

def find? (key : String) : Entries → Option Item
  | [] => none
  | (other, item) :: entries => if other = key then some item else find? key entries

def alter? (key : String) (change : Option Item → Option Item) : Entries → Option Entries
  | [] => (change none).map fun item => [(key, item)]
  | (other, item) :: entries =>
      if other = key then (change (some item)).map fun item => (key, item) :: entries
      else (alter? key change entries).map ((other, item) :: ·)

def alterLast? (change : Entries → Option Entries) : List Entries → Option (List Entries)
  | [] => none
  | [last] => (change last).map ([·])
  | first :: rest => (alterLast? change rest).map (first :: ·)

/-- Changes the table at the end of a path.  Steps that are missing are made, of the given kind;
a dotted path does not enter a table with a header. -/
def descend? (made : TableKind) (change : Entries → Option Entries) :
    (path : List String) → Entries → Option Entries
  | [], entries => change entries
  | key :: path, entries =>
      alter? key (fun
        | none => (descend? made change path []).map (.table made)
        | some (.table kind inner) =>
            if made = .dotted ∧ kind = .header then none
            else (descend? made change path inner).map (.table kind)
        | some (.tables elements) =>
            (alterLast? (descend? made change path) elements).map .tables
        | some _ => none) entries

def putNew? (key : String) (item : Item) : Entries → Option Entries :=
  alter? key fun
    | none => some item
    | some _ => none

/-- The table of a header: new, or one that was passed on the way of another. -/
def defineTable (path : List String) (key : String) : Entries → Option Entries :=
  descend? .passed (alter? key fun
    | none => some (.table .header [])
    | some (.table .passed entries) => some (.table .header entries)
    | some _ => none) path

def defineElement (path : List String) (key : String) : Entries → Option Entries :=
  descend? .passed (alter? key fun
    | none => some (.tables [[]])
    | some (.tables elements) => some (.tables (elements ++ [[]]))
    | some _ => none) path

/-- An item under a dotted key.  The last step of a path of several keys is a table that dotted
keys made. -/
def defineItem : (path : List String) → (key : String) → Item → Entries → Option Entries
  | [], key, item, entries => putNew? key item entries
  | step :: path, key, item, entries =>
      let last := (step :: path).getLastD step
      descend? .dotted (fun inner =>
        alter? last (fun
          | none => (putNew? key item []).map (.table .dotted)
          | some (.table .dotted within) => (putNew? key item within).map (.table .dotted)
          | some _ => none) inner) (step :: path).dropLast entries

end Entries

end RequestUploads.Toml
