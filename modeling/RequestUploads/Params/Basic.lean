import RequestUploads.Params.Value

namespace RequestUploads

structure Params where
  entries : List (String × Value)
deriving DecidableEq, Repr

namespace Params

instance : EmptyCollection Params := ⟨⟨[]⟩⟩

def size (p : Params) : Nat := p.entries.length

def names (p : Params) : List String := p.entries.map (·.1)

def find? (name : String) : List (String × Value) → Option Value
  | [] => none
  | (key, value) :: entries => if key = name then some value else find? name entries

def get? (p : Params) (name : String) : Option Value := find? name p.entries

def contains (p : Params) (name : String) : Bool := (p.get? name).isSome

def alter (name : String) (change : Option Value → Value) :
    List (String × Value) → List (String × Value)
  | [] => [(name, change none)]
  | (key, value) :: entries =>
      if key = name then (key, change (some value)) :: entries
      else (key, value) :: alter name change entries

def erase (name : String) : List (String × Value) → List (String × Value)
  | [] => []
  | (key, value) :: entries => if key = name then entries else (key, value) :: erase name entries

def insert (p : Params) (name : String) (value : Value) : Option Value × Params :=
  (p.get? name, ⟨alter name (fun _ => value) p.entries⟩)

def append (p : Params) (name : String) (value : Value) : Params :=
  ⟨alter name (fun | some first => first.joined value | none => value) p.entries⟩

def remove (p : Params) (name : String) : Option Value × Params :=
  (p.get? name, ⟨erase name p.entries⟩)

def retain (p : Params) (keep : String → Value → Bool) : Params :=
  ⟨p.entries.filter fun (name, value) => keep name value⟩

def collect (submissions : List (String × Value)) : Params :=
  submissions.foldl (fun p (name, value) => p.append name value) ∅

/-! ## How the operations act on what is found -/

theorem find?_alter_self (name : String) (change : Option Value → Value)
    (entries : List (String × Value)) :
    find? name (alter name change entries) = some (change (find? name entries)) := by
  induction entries with
  | nil => simp [alter, find?]
  | cons entry entries ih =>
      obtain ⟨key, value⟩ := entry
      by_cases same : key = name <;> simp [alter, find?, same, ih]

theorem find?_alter_of_ne {name other : String} (differ : other ≠ name)
    (change : Option Value → Value) (entries : List (String × Value)) :
    find? other (alter name change entries) = find? other entries := by
  induction entries with
  | nil => simp [alter, find?, differ.symm]
  | cons entry entries ih =>
      obtain ⟨key, value⟩ := entry
      by_cases same : key = name
      · subst same; simp [alter, find?, differ.symm]
      · simp [alter, find?, same, ih]

theorem find?_erase_of_ne {name other : String} (differ : other ≠ name)
    (entries : List (String × Value)) :
    find? other (erase name entries) = find? other entries := by
  induction entries with
  | nil => rfl
  | cons entry entries ih =>
      obtain ⟨key, value⟩ := entry
      by_cases same : key = name
      · subst same; simp [erase, find?, differ.symm]
      · simp [erase, find?, same, ih]

end Params

end RequestUploads
