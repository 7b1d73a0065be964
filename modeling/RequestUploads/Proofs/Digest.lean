import Mathlib.Data.List.Basic
import RequestUploads.Digest.Content

namespace RequestUploads

/-! ## Portions -/

namespace ContentDigest

theorem digestFrom_append (h : Sha256.Hasher) (portions : List (List UInt8))
    (nonempty : ∀ portion ∈ portions, portion ≠ []) (reads : List Read) :
    digestFrom h (portions.map .ok ++ reads) =
      digestFrom (portions.foldl Sha256.Hasher.update h) reads := by
  induction portions generalizing h with
  | nil => rfl
  | cons portion portions ih =>
      obtain ⟨byte, rest, rfl⟩ := List.exists_cons_of_ne_nil (nonempty portion (by simp))
      exact ih _ fun other member => nonempty other (by simp [member])

theorem holds_foldl_update {h : Sha256.Hasher} {content : List UInt8} (holds : h.Holds content)
    (portions : List (List UInt8)) :
    (portions.foldl Sha256.Hasher.update h).Holds (content ++ portions.flatten) := by
  induction portions generalizing h content with
  | nil => simpa using holds
  | cons portion portions ih =>
      rw [List.flatten_cons, ← List.append_assoc]
      exact ih (Sha256.Hasher.holds_update holds portion)

theorem ofHasher_foldl_update (portions : List (List UInt8)) :
    ofHasher (portions.foldl Sha256.Hasher.update .empty) = ofContent portions.flatten :=
  ofHasher_of_holds (holds_foldl_update Sha256.Hasher.holds_empty portions)

/-- The digest of a content does not depend on the portions in which it is read, nor on what comes
after its end.  A failure before the end is the outcome, whatever its kind is and whatever was read
before it. -/
theorem digest_in_portions {content : List UInt8} {portions : List (List UInt8)}
    (whole : portions.flatten = content) (nonempty : ∀ portion ∈ portions, portion ≠ [])
    (later : List Read) :
    digest (portions.map .ok ++ .ok [] :: later) =
        .ok ⟨content.length, (Sha256.sha256 content).hex⟩ ∧
      ∀ failure, digest (portions.map .ok ++ .error failure :: later) = .error failure := by
  have taken (reads : List Read) := digestFrom_append .empty portions nonempty reads
  constructor
  · rw [digest, taken, digestFrom, ofHasher_foldl_update, whole, ofContent]
  · intro failure
    rw [digest, taken, digestFrom]

theorem digest_in_portions_interrupted :
    [[97], [98, 99]].flatten = [97, 98, 99] ∧
      (∀ portion ∈ ([[97], [98, 99]] : List (List UInt8)), portion ≠ []) ∧
      digest [.ok [97], .ok [98, 99], .ok [], .ok [100]] =
        .ok ⟨3, "ba7816bf8f01cfea414140de5dae2223b00361a396177a9cb410ff61f20015ad"⟩ ∧
      digest [.ok [97], .ok [98, 99], .error (.interrupted "signal"), .ok [100], .ok []] =
        .error (.interrupted "signal") := by
  have nonempty : ∀ portion ∈ ([[97], [98, 99]] : List (List UInt8)), portion ≠ [] := by decide
  have hash : (Sha256.sha256 [97, 98, 99]).hex =
      "ba7816bf8f01cfea414140de5dae2223b00361a396177a9cb410ff61f20015ad" := by decide +kernel
  have read := digest_in_portions rfl nonempty [.ok [100]]
  have stopped := digest_in_portions rfl nonempty [.ok [100], .ok []]
  refine ⟨rfl, nonempty, ?_, stopped.2 (.interrupted "signal")⟩
  rw [← hash]
  exact read.1

end ContentDigest

end RequestUploads
