import RequestUploads.Text.Ascii

namespace RequestUploads

inductive Dialect
  | dali
  | tap
deriving DecidableEq, Repr

namespace Dialect

instance : Inhabited Dialect := ⟨.tap⟩

def allowsSeveral : Dialect → Bool
  | .dali => false
  | .tap => true

def text : Dialect → String
  | .dali => "dali"
  | .tap => "tap"

def named? (s : String) : Option Dialect :=
  if s = "dali" then some .dali else if s = "tap" then some .tap else none

def ofText? (s : String) : Option Dialect := named? (String.ofList (Ascii.lower s.toList))

def unknownMessage (s : String) : String :=
  s!"unknown upload syntax \"{s}\" (expected \"dali\" or \"tap\")"

theorem named?_text (d : Dialect) : named? d.text = some d := by cases d <;> decide

theorem ofText?_text (d : Dialect) : ofText? d.text = some d := by cases d <;> decide

end Dialect

end RequestUploads
