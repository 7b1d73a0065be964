import Mathlib.Data.List.Basic
import RequestUploads.FileTree.Basic
import RequestUploads.Proofs.Results

namespace RequestUploads.FileTree
open Results

deriving instance DecidableEq for FileTree

/-! ## Refusals -/

theorem permit_eq_ok_iff {t : FileTree} {access : Access} {location : Location} :
    t.permit access location = .ok () ↔ t.refusal? access location = none := by
  unfold permit
  cases t.refusal? access location with
  | none => simp
  | some reason => simp

theorem permit_eq_error_iff {t : FileTree} {access : Access} {location : Location}
    {failure : FileError} :
    t.permit access location = .error failure ↔
      ∃ reason, t.refusal? access location = some reason ∧ failure = .other reason := by
  unfold permit
  cases t.refusal? access location with
  | none => simp
  | some reason => simp [eq_comm]

theorem permit_bind_eq_ok_iff {t : FileTree} {access : Access} {location : Location} {α : Type}
    {next : Unit → Except FileError α} {value : α} :
    (t.permit access location >>= next) = .ok value ↔
      t.refusal? access location = none ∧ next () = .ok value := by
  unfold permit
  cases t.refusal? access location with
  | none => simp
  | some reason => simp

theorem refusal?_congr {t u : FileTree} (same : u.refusals = t.refusals) :
    u.refusal? = t.refusal? := by
  funext access location
  rw [refusal?, refusal?, same]

/-! ## One name after the other -/

def moved (here : Location) (name : String) : Location :=
  if name = "." then here else if name = ".." then here.dropLast else here ++ [name]

theorem moved_of_plain {name : String} (notHere : name ≠ ".") (notUp : name ≠ "..")
    (here : Location) : moved here name = here ++ [name] := by
  rw [moved, if_neg notHere, if_neg notUp]

theorem walk_cons_eq_ok_iff {t : FileTree} {here location : Location} {name : String}
    {names : List String} :
    t.walk here (name :: names) = .ok location ↔
      t.get? here = some .directory ∧ t.refusal? .search here = none ∧
        Utf8.size name.toList ≤ FilePath.longestName ∧
        t.walk (moved here name) names = .ok location := by
  rw [walk]
  cases found : t.get? here with
  | none => simp
  | some node =>
      cases node with
      | file content => simp
      | directory =>
          simp only [permit_bind_eq_ok_iff, moved, true_and]
          refine and_congr_right fun _ => ?_
          split_ifs with stays up long
          · subst stays
            have short : Utf8.size ".".toList ≤ FilePath.longestName := by decide
            simp only [short, true_and]
          · subst up
            have short : Utf8.size "..".toList ≤ FilePath.longestName := by decide
            simp only [short, true_and]
          · simp [Nat.not_le.2 long]
          · simp only [Nat.not_lt.1 long, true_and]

theorem walk_append_eq_ok_iff {t : FileTree} {here location : Location}
    {front back : List String} :
    t.walk here (front ++ back) = .ok location ↔
      ∃ middle, t.walk here front = .ok middle ∧ t.walk middle back = .ok location := by
  induction front generalizing here with
  | nil => simp [walk]
  | cons name front ih =>
      rw [List.cons_append, walk_cons_eq_ok_iff, ih]
      simp only [walk_cons_eq_ok_iff]
      tauto

theorem walk_concat_eq_ok_iff {t : FileTree} {here location : Location} {name : String}
    {names : List String} :
    t.walk here (names ++ [name]) = .ok location ↔
      ∃ parent, t.walk here names = .ok parent ∧ t.get? parent = some .directory ∧
        t.refusal? .search parent = none ∧ Utf8.size name.toList ≤ FilePath.longestName ∧
        location = moved parent name := by
  have last (parent : Location) : t.walk parent [name] = .ok location ↔
      t.get? parent = some .directory ∧ t.refusal? .search parent = none ∧
        Utf8.size name.toList ≤ FilePath.longestName ∧ location = moved parent name := by
    rw [walk_cons_eq_ok_iff, walk, Except.ok.injEq, eq_comm (a := moved parent name)]
  simp only [walk_append_eq_ok_iff, last]

/-! ## Whole paths -/

theorem locate_eq_ok_iff {t : FileTree} {path : String} {location : Location} :
    t.locate path = .ok location ↔
      path.toList.contains '\x00' = false ∧ path.isEmpty = false ∧
        Utf8.size path.toList ≤ FilePath.longest ∧
        t.walk (t.start (FilePath.ofText path)) (FilePath.ofText path).names = .ok location := by
  unfold locate
  split_ifs with nul empty long
  · simp only [nul, Bool.true_eq_false, false_and]
  · simp only [empty, Bool.true_eq_false, false_and, and_false]
  · simp [Nat.not_le.2 long]
  · simp only [Bool.eq_false_iff.2 nul, Bool.eq_false_iff.2 empty, Nat.not_lt.1 long, true_and]

theorem lookup_eq_ok_iff {t : FileTree} {path : String} {location : Location} {node : Node} :
    t.lookup path = .ok (location, node) ↔
      t.locate path = .ok location ∧ t.get? location = some node ∧
        (node = .directory ∨ (FilePath.ofText path).slashed = false) := by
  unfold lookup
  cases leads : t.locate path with
  | error failure => simp
  | ok here =>
      rw [ok_bind, Except.ok.injEq]
      cases found : t.get? here with
      | none =>
          simp only [reduceCtorEq, false_iff]
          rintro ⟨rfl, present, -⟩
          rw [found] at present
          cases present
      | some held =>
          have only : (here = location ∧ t.get? location = some node) ↔
              here = location ∧ held = node := by
            constructor
            · rintro ⟨rfl, present⟩
              exact ⟨rfl, Option.some.inj (found.symm.trans present)⟩
            · rintro ⟨rfl, rfl⟩
              exact ⟨rfl, found⟩
          rw [← and_assoc, only]
          cases held with
          | directory => grind
          | file content => grind

theorem read_eq_ok_iff {t : FileTree} {path : String} {content : List UInt8} :
    t.read path = .ok content ↔ ∃ location, t.lookup path = .ok (location, .file content) ∧
      t.refusal? .read location = none := by
  unfold read
  cases t.lookup path with
  | error failure => simp
  | ok entry =>
      obtain ⟨location, node⟩ := entry
      cases node <;> simp [permit_bind_eq_ok_iff, and_comm]

def LeadsToFile (t : FileTree) (path : String) (location : Location) : Prop :=
  ∃ content, t.lookup path = .ok (location, .file content)

theorem LeadsToFile.unique {t : FileTree} {path : String} {location other : Location}
    (leads : t.LeadsToFile path location) (leadsOther : t.LeadsToFile path other) :
    location = other := by
  obtain ⟨content, found⟩ := leads
  obtain ⟨contentOther, foundOther⟩ := leadsOther
  rw [found, Except.ok.injEq, Prod.mk.injEq] at foundOther
  exact foundOther.1

/-! ## Trees that refuse nothing -/

def unrefused (t : FileTree) : FileTree := { t with refusals := [] }

section
variable {t : FileTree} {here location : Location} {names : List String} {path : String}

@[simp] theorem get?_unrefused (t : FileTree) (location : Location) :
    t.unrefused.get? location = t.get? location := rfl

theorem walk_unrefused (leads : t.walk here names = .ok location) :
    t.unrefused.walk here names = .ok location := by
  induction names generalizing here with
  | nil => exact leads
  | cons name names ih =>
      obtain ⟨isDirectory, -, short, later⟩ := walk_cons_eq_ok_iff.1 leads
      exact walk_cons_eq_ok_iff.2 ⟨isDirectory, rfl, short, ih later⟩

/-- Names that lead somewhere can only fail to do so by a refusal. -/
theorem walk_of_unrefused (leads : t.unrefused.walk here names = .ok location) :
    t.walk here names = .ok location ∨ ∃ reason, t.walk here names = .error (.other reason) := by
  induction names generalizing here with
  | nil => exact .inl leads
  | cons name names ih =>
      obtain ⟨isDirectory, -, short, later⟩ := walk_cons_eq_ok_iff.1 leads
      rw [get?_unrefused] at isDirectory
      cases permitted : t.refusal? .search here with
      | some reason =>
          right
          have refused := permit_eq_error_iff.2 ⟨reason, permitted, rfl⟩
          simp only [walk, isDirectory, refused]
          exact ⟨reason, rfl⟩
      | none =>
          have next : t.walk here (name :: names) = t.walk (moved here name) names := by
            simp only [walk, isDirectory, permit_eq_ok_iff.2 permitted, ok_bind, moved]
            split_ifs with stays up long
            · rfl
            · rfl
            · exact absurd short (Nat.not_le.2 long)
            · rfl
          rw [next]
          exact ih later

theorem locate_unrefused (leads : t.locate path = .ok location) :
    t.unrefused.locate path = .ok location := by
  rw [locate_eq_ok_iff] at leads ⊢
  exact ⟨leads.1, leads.2.1, leads.2.2.1, walk_unrefused leads.2.2.2⟩

theorem lookup_unrefused {node : Node} (leads : t.lookup path = .ok (location, node)) :
    t.unrefused.lookup path = .ok (location, node) := by
  rw [lookup_eq_ok_iff] at leads ⊢
  exact ⟨locate_unrefused leads.1, leads.2⟩

/-- Names that stay make no difference, but that they need a directory to stay in. -/
theorem walk_filter (leads : t.walk here names = .ok location) :
    t.walk here (names.filter (· ≠ ".")) = .ok location := by
  induction names generalizing here with
  | nil => exact leads
  | cons name names ih =>
      obtain ⟨isDirectory, permitted, short, later⟩ := walk_cons_eq_ok_iff.1 leads
      by_cases stays : name = "."
      · rw [List.filter_cons_of_neg (by simpa using stays)]
        rw [moved, if_pos stays] at later
        exact ih later
      · rw [List.filter_cons_of_pos (by simpa using stays)]
        exact walk_cons_eq_ok_iff.2 ⟨isDirectory, permitted, short, ih later⟩

end

/-! ## Trees with the same directories -/

structure SameDirectories (t u : FileTree) : Prop where
  working : u.working = t.working
  refusals : u.refusals = t.refusals
  directory : ∀ location, u.get? location = some .directory ↔ t.get? location = some .directory

namespace SameDirectories

variable {t u : FileTree}

theorem walk (same : t.SameDirectories u) {here location : Location} {names : List String} :
    u.walk here names = .ok location ↔ t.walk here names = .ok location := by
  induction names generalizing here with
  | nil => rfl
  | cons name names ih =>
      rw [walk_cons_eq_ok_iff, walk_cons_eq_ok_iff, same.directory, refusal?_congr same.refusals,
        ih]

theorem locate (same : t.SameDirectories u) {path : String} {location : Location} :
    u.locate path = .ok location ↔ t.locate path = .ok location := by
  rw [locate_eq_ok_iff, locate_eq_ok_iff, start, start, same.working, same.walk]

end SameDirectories

/-! ## Writing -/

theorem write_eq_ok_iff {t u : FileTree} {path : String} {content : List UInt8} :
    t.write path content = .ok u ↔
      ∃ location, t.locate path = .ok location ∧ (FilePath.ofText path).slashed = false ∧
        t.get? location ≠ some .directory ∧ t.refusal? .write location = none ∧
        u = t.put location (.file content) := by
  unfold write
  cases t.locate path with
  | error failure => simp
  | ok location =>
      rw [ok_bind]
      split_ifs with refused
      · simp only [Except.ok.injEq, false_iff, not_exists, not_and]
        rintro _ rfl unslashed notDirectory
        exact absurd refused (by simp [unslashed, notDirectory])
      · obtain ⟨unslashed, notDirectory⟩ := not_or.1 refused
        rw [permit_bind_eq_ok_iff, pure_eq_ok, Except.ok.injEq]
        constructor
        · rintro ⟨permitted, rfl⟩
          exact ⟨location, rfl, by simpa using unslashed, notDirectory, permitted, rfl⟩
        · rintro ⟨_, leads, -, -, permitted, rfl⟩
          obtain rfl := Except.ok.inj leads
          exact ⟨permitted, rfl⟩

theorem ne_nil_of_not_directory {t : FileTree} {location : Location}
    (notDirectory : t.get? location ≠ some .directory) : location ≠ [] := by
  rintro rfl
  exact notDirectory rfl

theorem sameDirectories_put_file {t : FileTree} {location : Location}
    (notDirectory : t.get? location ≠ some .directory) (content : List UInt8) :
    t.SameDirectories (t.put location (.file content)) := by
  refine ⟨rfl, rfl, fun other => ?_⟩
  by_cases same : other = location
  · subst same
    simp [get?_put_self (ne_nil_of_not_directory notDirectory), notDirectory]
  · rw [get?_put_of_ne same]

theorem lookup_put_file {t : FileTree} {path : String} {location : Location}
    (leads : t.locate path = .ok location) (unslashed : (FilePath.ofText path).slashed = false)
    (notDirectory : t.get? location ≠ some .directory) (content : List UInt8) :
    (t.put location (.file content)).lookup path = .ok (location, .file content) := by
  rw [lookup_eq_ok_iff, (sameDirectories_put_file notDirectory content).locate]
  exact ⟨leads, get?_put_self (ne_nil_of_not_directory notDirectory) _, .inr unslashed⟩

end RequestUploads.FileTree
