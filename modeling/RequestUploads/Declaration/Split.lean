import RequestUploads.Declaration.Pair
import RequestUploads.Dialect

/-!
# Several declarations in one value

A value of `UPLOAD` is divided into declarations without looking closely at them: a piece has the
shape of a declaration when a comma stands after something and before something.  In TAP a
semicolon divides when both what precedes it and what follows it, up to the next division, have
that shape; divisions are looked for from the right.  In DALI a value is one piece, and one that
holds a second declaration after a semicolon is refused.
-/

namespace RequestUploads.Declaration

def Shaped (s : List Char) : Prop :=
  match Text.cut? ',' s with
  | some (label, target) => label ≠ [] ∧ target ≠ [] ∧ '\n' ∉ target
  | none => False

instance : DecidablePred Shaped := fun s => by unfold Shaped; split <;> infer_instance

/-- Divides a text from its right end: `before` is what is still to be divided, in reverse, and
`piece` what has been passed since the last division. -/
def divide : (before piece : List Char) → (later : List (List Char)) → List (List Char)
  | [], piece, later => piece :: later
  | c :: before, piece, later =>
      if c = ';' ∧ Shaped piece ∧ Shaped before.reverse then divide before [] (piece :: later)
      else divide before (c :: piece) later

def tapPieces (s : List Char) : List (List Char) := divide s.reverse [] []

theorem divide_ne_nil (before piece : List Char) (later : List (List Char)) :
    divide before piece later ≠ [] := by
  induction before generalizing piece later with
  | nil => simp [divide]
  | cons c before ih => simp only [divide]; split <;> exact ih _ _

def StartsDeclaration (s : List Char) : Prop :=
  match Text.cut? ',' s with
  | some (label, target) => IsLabel label ∧ match Scheme.split? target with
      | some (_, c :: _) => c ≠ '\n'
      | _ => False
  | none => False

instance : DecidablePred StartsDeclaration := fun s =>
  decidable_of_iff
    ((match Text.cut? ',' s with
      | some (label, target) => decide (IsLabel label) && match Scheme.split? target with
          | some (_, c :: _) => c != '\n'
          | _ => false
      | none => false) = true)
    (by
      unfold StartsDeclaration
      split
      · split <;> simp
      · simp)

def joinsDeclarations : List Char → Bool
  | [] => false
  | c :: s => decide (c = ';' ∧ StartsDeclaration s) || joinsDeclarations s

def split (dialect : Dialect) (raw : String) : Except UploadError (List String) :=
  match dialect with
  | .tap =>
      match tapPieces raw.toList with
      | first :: later =>
          if Shaped first then .ok ((first :: later).map String.ofList)
          else .error (.malformed raw .noDeclaration)
      | [] => .error (.malformed raw .noDeclaration)
  | .dali =>
      if joinsDeclarations raw.toList then .error (.malformed raw .severalUploads)
      else if Shaped raw.toList then .ok [raw]
      else .error (.malformed raw .noDeclaration)

end RequestUploads.Declaration
