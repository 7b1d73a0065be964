import RequestUploads.Upload.Basic

namespace RequestUploads

inductive Value
  | null
  | text (content : String)
  | file (file : StagedFile)
  | upload (upload : Upload)
  | list (items : List Value)
deriving Repr

namespace Value

/-! ## Equality -/

mutual

def decEq : (v w : Value) → Decidable (v = w)
  | .null, .null => isTrue rfl
  | .text s, .text t =>
      if same : s = t then isTrue (by rw [same]) else isFalse (by simp [same])
  | .file f, .file g =>
      if same : f = g then isTrue (by rw [same]) else isFalse (by simp [same])
  | .upload u, .upload v =>
      if same : u = v then isTrue (by rw [same]) else isFalse (by simp [same])
  | .list vs, .list ws =>
      match decEqAll vs ws with
      | isTrue same => isTrue (by rw [same])
      | isFalse differ => isFalse (by simp [differ])
  | .null, .text _ | .null, .file _ | .null, .upload _ | .null, .list _
  | .text _, .null | .text _, .file _ | .text _, .upload _ | .text _, .list _
  | .file _, .null | .file _, .text _ | .file _, .upload _ | .file _, .list _
  | .upload _, .null | .upload _, .text _ | .upload _, .file _ | .upload _, .list _
  | .list _, .null | .list _, .text _ | .list _, .file _ | .list _, .upload _ =>
      isFalse (by simp)

def decEqAll : (vs ws : List Value) → Decidable (vs = ws)
  | [], [] => isTrue rfl
  | [], _ :: _ => isFalse (by simp)
  | _ :: _, [] => isFalse (by simp)
  | v :: vs, w :: ws =>
      match decEq v w with
      | isFalse differ => isFalse (by simp [differ])
      | isTrue same => match decEqAll vs ws with
        | isTrue rest => isTrue (by rw [same, rest])
        | isFalse differ => isFalse (by simp [differ])

end

instance : DecidableEq Value := decEq

/-! ## Views -/

mutual

def leaves : Value → List Value
  | .list items => leavesAll items
  | leaf => [leaf]

def leavesAll : List Value → List Value
  | [] => []
  | v :: vs => v.leaves ++ leavesAll vs

end

theorem leavesAll_eq_flatMap (vs : List Value) : leavesAll vs = vs.flatMap leaves := by
  induction vs with
  | nil => rfl
  | cons v vs ih => simp [leavesAll, ih]

def text? : Value → Option String
  | .text content => some content
  | _ => none

def file? : Value → Option StagedFile
  | .file found => some found
  | _ => none

def isNull : Value → Bool
  | .null => true
  | _ => false

def joined : Value → Value → Value
  | .list items, next => .list (items ++ [next])
  | value, next => .list [value, next]

theorem leaves_joined (v w : Value) : (v.joined w).leaves = v.leaves ++ w.leaves := by
  cases v <;> simp [joined, leaves, leavesAll, leavesAll_eq_flatMap]

end Value

end RequestUploads
