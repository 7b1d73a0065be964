import RequestUploads.Digest.Sha256
import RequestUploads.FileTree.Basic

namespace RequestUploads

abbrev Read := Except FileError (List UInt8)

structure ContentDigest where
  length : Nat
  sha256 : String
deriving DecidableEq, Repr

namespace ContentDigest

def ofHasher (h : Sha256.Hasher) : ContentDigest := ⟨h.length, h.hash.hex⟩

def digestFrom (h : Sha256.Hasher) : List Read → Except FileError ContentDigest
  | [] => .ok (ofHasher h)
  | .error failure :: _ => .error failure
  | .ok [] :: _ => .ok (ofHasher h)
  | .ok portion :: reads => digestFrom (h.update portion) reads

def digest (reads : List Read) : Except FileError ContentDigest := digestFrom .empty reads

def ofContent (content : List UInt8) : ContentDigest :=
  ⟨content.length, (Sha256.sha256 content).hex⟩

theorem ofHasher_of_holds {h : Sha256.Hasher} {content : List UInt8} (holds : h.Holds content) :
    ofHasher h = ofContent content := by
  simp [ofHasher, ofContent, holds.2, Sha256.Hasher.hash_of_holds holds]

end ContentDigest

/-! ## Readers -/

def readSize : Nat := 65536

def portions (size : Nat) (content : List UInt8) : List (List UInt8) :=
  if size = 0 ∨ content.isEmpty then []
  else content.take size :: portions size (content.drop size)
termination_by content.length
decreasing_by
  rename_i h
  simp only [not_or, List.isEmpty_iff] at h
  have := List.length_pos_iff.2 h.2
  simp; omega

def readsOf (size : Nat) (content : List UInt8) : List Read :=
  (portions (min size readSize) content).map .ok

/-- Opens a file or directory; a directory opens but cannot be read. -/
def FileTree.openFile (t : FileTree) (path : String) : Except FileError (List Read) := do
  let (location, node) ← t.lookup path
  t.permit .read location
  match node with
  | .file content => .ok (readsOf readSize content)
  | .directory => .ok [.error .isDirectory]

end RequestUploads
