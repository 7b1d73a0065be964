import RequestUploads.Proofs.FileTree.Growth
import RequestUploads.Staging

namespace RequestUploads

/-! ## Paths -/

theorem Text.pieces_append (sep : Char) (s w : List Char) :
    pieces sep (s ++ sep :: w) = pieces sep s ++ pieces sep w := by
  induction s with
  | nil => simp [pieces]
  | cons c s ih =>
      rw [List.cons_append, pieces, pieces, ih]
      split_ifs with divides
      · rfl
      · cases first : pieces sep s with
        | nil => exact absurd first (pieces_ne_nil sep s)
        | cons p ps => rfl

theorem Text.pieces_of_free {sep : Char} {s : List Char} (free : sep ∉ s) :
    pieces sep s = [s] := by
  induction s with
  | nil => rfl
  | cons c s ih =>
      obtain ⟨differs, rest⟩ := not_or.1 (mt List.mem_cons.2 free)
      rw [pieces, if_neg (Ne.symm differs), ih rest]

/-- A name that is neither empty nor a path of several names, and that names something. -/
structure IsPlain (name : String) : Prop where
  nonempty : name ≠ ""
  single : '/' ∉ name.toList
  notHere : name ≠ "."
  notUp : name ≠ ".."

instance (name : String) : Decidable (IsPlain name) :=
  decidable_of_iff (name ≠ "" ∧ '/' ∉ name.toList ∧ name ≠ "." ∧ name ≠ "..")
    ⟨fun ⟨nonempty, single, notHere, notUp⟩ => ⟨nonempty, single, notHere, notUp⟩,
      fun plain => ⟨plain.nonempty, plain.single, plain.notHere, plain.notUp⟩⟩

namespace FilePath

theorem names_of_divided (front : List Char) {name : String} (plain : IsPlain name) :
    ((Text.pieces '/' (front ++ '/' :: name.toList)).filter (· ≠ [])).map String.ofList =
      ((Text.pieces '/' front).filter (· ≠ [])).map String.ofList ++ [name] := by
  have nonempty : name.toList ≠ [] := by simpa using plain.nonempty
  rw [Text.pieces_append, Text.pieces_of_free plain.single, List.filter_append, List.map_append]
  simp [nonempty]

theorem ofText_under {directory name : String} (named : directory ≠ "") (plain : IsPlain name) :
    ofText (under directory name) =
      ⟨(ofText directory).absolute, (ofText directory).names ++ [name], false⟩ := by
  have characters : directory.toList ≠ [] := by simpa using named
  have nonempty : name.toList ≠ [] := by simpa using plain.nonempty
  have ends : name.toList.getLast? ≠ some '/' := fun last =>
    plain.single (List.mem_of_getLast? last)
  unfold under
  split_ifs with slashed
  · obtain ⟨front, divided⟩ := List.getLast?_eq_some_iff.1 slashed
    have text : (directory ++ name).toList = front ++ '/' :: name.toList := by
      rw [String.toList_append, divided, List.append_assoc]
      rfl
    have names : ((Text.pieces '/' directory.toList).filter (· ≠ [])).map String.ofList =
        ((Text.pieces '/' front).filter (· ≠ [])).map String.ofList := by
      rw [divided, Text.pieces_append, List.filter_append]
      simp [Text.pieces]
    simp only [ofText, mk.injEq]
    refine ⟨?_, ?_, ?_⟩
    · rw [String.toList_append, List.head?_append_of_ne_nil _ characters]
    · rw [text, names_of_divided front plain, names]
    · rw [String.toList_append, List.getLast?_append_of_ne_nil _ nonempty]
      simpa using ends
  · have text : (directory ++ "/" ++ name).toList = directory.toList ++ '/' :: name.toList := by
      simp
    simp only [ofText, mk.injEq]
    refine ⟨?_, ?_, ?_⟩
    · rw [text, List.head?_append_of_ne_nil _ characters]
    · rw [text, names_of_divided directory.toList plain]
    · rw [text, ← List.singleton_append, ← List.append_assoc,
        List.getLast?_append_of_ne_nil _ nonempty]
      simpa using ends

theorem under_ne_empty (directory : String) {name : String} (named : name ≠ "") :
    under directory name ≠ "" := by
  unfold under
  split_ifs <;> simp [named]

theorem exists_toList_under (directory name : String) :
    ∃ rest, (under directory name).toList = directory.toList ++ rest := by
  unfold under
  split_ifs
  · exact ⟨_, String.toList_append⟩
  · exact ⟨_, by rw [String.append_assoc, String.toList_append]⟩

end FilePath

namespace FileTree
open Results

variable {t : FileTree} {directory name : String} {location : Location}

theorem locate_under (named : directory ≠ "") (plain : IsPlain name)
    (leads : t.locate (FilePath.under directory name) = .ok location) :
    ∃ parent, t.lookup directory = .ok (parent, .directory) ∧ location = parent ++ [name] := by
  obtain ⟨clean, -, short, walks⟩ := locate_eq_ok_iff.1 leads
  rw [FilePath.ofText_under named plain] at walks
  obtain ⟨parent, there, isDirectory, -, -, same⟩ := walk_concat_eq_ok_iff.1 walks
  rw [moved_of_plain plain.notHere plain.notUp] at same
  refine ⟨parent, ?_, same⟩
  obtain ⟨rest, text⟩ := FilePath.exists_toList_under directory name
  rw [text] at clean short
  have cleanToo : directory.toList.contains '\x00' = false := by
    simp only [List.contains_append, Bool.or_eq_false_iff] at clean
    exact clean.1
  have shortToo : Utf8.size directory.toList ≤ FilePath.longest := by
    refine Nat.le_trans ?_ short
    simp [Utf8.size]
  rw [lookup_eq_ok_iff, locate_eq_ok_iff]
  exact ⟨⟨cleanToo, by simpa using named, shortToo, there⟩, isDirectory, .inl rfl⟩

theorem extends_write_under {u : FileTree} {content : List UInt8} (named : directory ≠ "")
    (plain : IsPlain name)
    (free : ∀ location, t.locate (FilePath.under directory name) = .ok location →
      t.get? location = none)
    (written : t.write (FilePath.under directory name) content = .ok u) :
    ∃ parent, t.lookup directory = .ok (parent, .directory) ∧
      u.lookup (FilePath.under directory name) = .ok (parent ++ [name], .file content) ∧
      Extends (fun location node => location = parent ++ [name] ∧ node = .file content) t u := by
  obtain ⟨location, leads, unslashed, notDirectory, -, rfl⟩ := write_eq_ok_iff.1 written
  have freeThere := free location leads
  obtain ⟨parent, found, rfl⟩ := locate_under named plain leads
  exact ⟨parent, found, lookup_put_file leads unslashed notDirectory content,
    extends_put (lookup_eq_ok_iff.1 found).2.1 freeThere (.file content)⟩

theorem get?_eq_none_of_lookup {failure : FileError} (named : directory ≠ "")
    (plain : IsPlain name)
    (missing : t.lookup (FilePath.under directory name) = .error failure)
    (leads : t.locate (FilePath.under directory name) = .ok location) :
    t.get? location = none := by
  by_contra present
  obtain ⟨node, held⟩ := Option.ne_none_iff_exists'.1 present
  have found : t.lookup (FilePath.under directory name) = .ok (location, node) :=
    lookup_eq_ok_iff.2 ⟨leads, held, .inr (by rw [FilePath.ofText_under named plain])⟩
  rw [found] at missing
  cases missing

/-! ## Names that are drawn -/

theorem freeName_eq_ok {before after : String} {drawn : List TempName}
    (found : t.freeName location before after drawn = .ok name) :
    t.get? (location ++ [name]) = none ∧ ∃ drew ∈ drawn, name = before ++ drew.text ++ after := by
  unfold freeName at found
  cases first : (drawn.map fun name => before ++ name.text ++ after).find? fun name =>
      (t.get? (location ++ [name])).isNone with
  | none => simp [first] at found
  | some other =>
      simp only [first, Except.ok.injEq] at found
      subst found
      obtain ⟨drew, member, same⟩ := List.mem_map.1 (List.mem_of_find?_eq_some first)
      exact ⟨by simpa using List.find?_some first, drew, member, same.symm⟩

theorem isPlain_drawn {before after : String} {c : Char} (begins : before.toList.head? = some c)
    (letter : c ≠ '.') (single : '/' ∉ before.toList) (singleAfter : '/' ∉ after.toList)
    (drew : TempName) : IsPlain (before ++ drew.text ++ after) := by
  have first : (before ++ drew.text ++ after).toList.head? = some c := by
    simp [List.head?_append, begins]
  have other (name : String) (begin : name.toList.head? ≠ some c) :
      before ++ drew.text ++ after ≠ name := by
    rintro rfl
    exact begin first
  refine ⟨other _ (by simp), ?_, other _ (by simpa using letter.symm),
    other _ (by simpa using letter.symm)⟩
  rw [String.toList_append, String.toList_append, List.mem_append, List.mem_append]
  rintro ((inBefore | inDrawn) | inAfter)
  · exact single inBefore
  · exact absurd (List.all_eq_true.1 drew.plain _ inDrawn) (by decide)
  · exact singleAfter inAfter

end FileTree

end RequestUploads
