import RequestUploads.Proofs.Config.Text
import RequestUploads.Proofs.FileTree.Growth
import RequestUploads.Proofs.Text.Utf8

/-!
# Loading the configuration again and again

Where something is at the path of the configuration, loading it changes nothing, be it readable or
not (`Config.tree_load_of_present`).  Where nothing is, a load that succeeds puts the default
configuration there, with the directories on the way to it (`Config.created_of_create`).  What it
has written is read back as the default configuration (`Config.readAt_of_lookup`), so all later
loads only read (`Config.loads_keep`).

A path that goes up may lead to nothing for want of a directory that it only passes.  A load then
makes that directory, and writes over the file that the path leads to now
(`Config.loads_overwrite_upward`).
-/

namespace RequestUploads.Config
open Results

def loads (path : String) : (times : Nat) → FileTree → List Loaded
  | 0, _ => []
  | times + 1, t => load t path :: loads path times (load t path).tree

/-! ## Loads that only read -/

theorem load_of_hasPath {t : FileTree} {path : String} (present : t.hasPath path = true) :
    load t path = ⟨readAt t path, t, []⟩ :=
  if_pos present

theorem loads_of_kept {t : FileTree} {path : String} (kept : (load t path).tree = t)
    (times : Nat) : loads path times t = List.replicate times (load t path) := by
  induction times with
  | zero => rfl
  | succ times ih => rw [loads, kept, ih, List.replicate_succ]

theorem hasPath_of_lookup {t : FileTree} {path : String} {entry : Location × Node}
    (found : t.lookup path = .ok entry) : t.hasPath path = true := by
  rw [FileTree.hasPath, found]
  rfl

theorem lookup_of_hasPath {t : FileTree} {path : String} (present : t.hasPath path = true) :
    ∃ location node, t.lookup path = .ok (location, node) := by
  cases found : t.lookup path with
  | ok entry => exact ⟨entry.1, entry.2, rfl⟩
  | error failure => simp [FileTree.hasPath, found, Except.toBool] at present

theorem hasPath_unrefused {t : FileTree} {path : String} (present : t.hasPath path = true) :
    t.unrefused.hasPath path = true := by
  obtain ⟨location, node, found⟩ := lookup_of_hasPath present
  exact hasPath_of_lookup (FileTree.lookup_unrefused found)

theorem tree_create_of_present {t : FileTree} {path : String}
    (present : t.unrefused.hasPath path = true) (hidden : t.hasPath path = false) :
    (create t path).tree = t := by
  obtain ⟨location, node, found⟩ := lookup_of_hasPath present
  obtain ⟨leads, held, fits⟩ := FileTree.lookup_eq_ok_iff.1 found
  have parents := FileTree.makeParents_of_present leads
  unfold create
  split
  · rename_i failure u made
    rwa [made] at parents
  · rename_i u made
    rw [made] at parents
    obtain rfl : u = t := parents
    split
    · rfl
    · -- a path that can be written leads to what is there, which is hidden
      rename_i v written
      obtain ⟨other, leadsToo, unslashed, -⟩ := FileTree.write_eq_ok_iff.1 written
      obtain rfl : other = location :=
        Except.ok.inj ((FileTree.locate_unrefused leadsToo).symm.trans leads)
      have visible := FileTree.lookup_eq_ok_iff.2 ⟨leadsToo, held, .inr unslashed⟩
      rw [hasPath_of_lookup visible] at hidden
      cases hidden

theorem tree_load_of_present {t : FileTree} {path : String}
    (present : t.unrefused.hasPath path = true) : (load t path).tree = t := by
  cases visible : t.hasPath path with
  | true => rw [load_of_hasPath visible]
  | false =>
      have creates : load t path = create t path := if_neg (by simp [visible])
      rw [creates, tree_create_of_present present visible]

theorem readAt_of_lookup {t : FileTree} {path : String} {location : Location} {config : Config}
    (found : t.lookup path = .ok (location, .file (Utf8.encode config.text)))
    (readable : t.refusal? .read location = none) : readAt t path = .ok config := by
  have content : t.read path = .ok (Utf8.encode config.text) :=
    FileTree.read_eq_ok_iff.2 ⟨location, found, readable⟩
  rw [readAt, content]
  simp only [Utf8.decode?_encode, ofText?, parse_text, Option.bind_some, ofEntries?_lines]

/-! ## Loads that write -/

/-- The second tree is the first one with the default configuration in a file at the path, and with
directories on the way to it. -/
structure Created (path : String) (location : Location) (t u : FileTree) : Prop where
  found : u.lookup path = .ok (location, .file (Utf8.encode (text {})))
  refusals : u.refusals = t.refusals
  kept : ∀ other ≠ location, ∀ node, t.get? other = some node → u.get? other = some node
  new : ∀ other node, t.get? other = none → u.get? other = some node → other = location ∨
    FileTree.OnTheWay (t.start (FilePath.ofText path)) (FilePath.ofText path).moves.dropLast
      other node
  upward : t.get? location ≠ none → ".." ∈ (FilePath.ofText path).names

theorem create_eq_ok {t : FileTree} {path : String} {config : Config}
    (made : (create t path).result = .ok config) :
    config = {} ∧ ∃ between, t.makeParents path = (.ok (), between) ∧
      between.write path (Utf8.encode (text {})) = .ok (create t path).tree := by
  unfold create at made ⊢
  cases parents : t.makeParents path with
  | mk result between =>
      cases result with
      | error failure => simp [parents] at made
      | ok done =>
          simp only [parents] at made ⊢
          cases written : between.write path (Utf8.encode (text {})) with
          | error failure => simp [written] at made
          | ok u =>
              simp only [written, Except.ok.injEq] at made ⊢
              exact ⟨made.symm, between, rfl, written⟩

theorem created_of_create {t : FileTree} (rooted : t.Rooted) {path : String} {config : Config}
    (missing : t.hasPath path = false) (made : (create t path).result = .ok config) :
    ∃ location, Created path location t (create t path).tree := by
  obtain ⟨-, between, parents, written⟩ := create_eq_ok made
  obtain ⟨location, leads, unslashed, notDirectory, -, tree⟩ := FileTree.write_eq_ok_iff.1 written
  have grown := t.extends_makeParents path
  rw [parents] at grown
  rw [tree]
  refine ⟨location, FileTree.lookup_put_file leads unslashed notDirectory _, grown.refusals,
    ?_, ?_, ?_⟩
  · intro other differ node held
    rw [FileTree.get?_put_of_ne differ]
    exact grown.kept other node held
  · intro other node absent held
    by_cases same : other = location
    · exact .inl same
    · rw [FileTree.get?_put_of_ne same] at held
      exact .inr (grown.new other node absent held)
  · intro present
    by_contra noUp
    obtain ⟨node, held⟩ := Option.ne_none_iff_exists'.1 present
    have old := grown.locate_of_present rooted noUp leads present
    have found := FileTree.lookup_eq_ok_iff.2 ⟨old, held, .inr unslashed⟩
    rw [hasPath_of_lookup found] at missing
    cases missing

/-! ## Runs of loads -/

theorem loads_keep {t : FileTree} (sound : t.Sound) (path : String) (times : Nat) :
    (t.unrefused.hasPath path = true → ∀ loaded ∈ loads path times t, loaded.tree = t) ∧
    (t.unrefused.hasPath path = false → ∀ config, (load t path).result = .ok config →
      config = {} ∧ ∃ location, Created path location t (load t path).tree ∧
        (∀ loaded ∈ loads path times (load t path).tree, loaded.tree = (load t path).tree) ∧
        (t.get? location = none ∨ t.refusal? .read location = none →
          ∀ loaded ∈ loads path times (load t path).tree, loaded.result = .ok {})) := by
  constructor
  · intro present loaded member
    have kept := tree_load_of_present present
    rw [loads_of_kept kept] at member
    rw [List.eq_of_mem_replicate member, kept]
  · intro absent config made
    have missing : t.hasPath path = false := by
      by_contra present
      rw [hasPath_unrefused (by simpa using present)] at absent
      cases absent
    have creates : load t path = create t path := if_neg (by simp [missing])
    rw [creates] at made ⊢
    obtain ⟨location, created⟩ := created_of_create sound.rooted missing made
    have later := load_of_hasPath (hasPath_of_lookup created.found)
    rw [loads_of_kept (by rw [later]), later]
    refine ⟨(create_eq_ok made).1, location, created, ?_, ?_⟩
    · intro loaded member
      rw [List.eq_of_mem_replicate member]
    · intro new loaded member
      have readable := new.elim sound.readable id
      rw [← FileTree.refusal?_congr created.refusals] at readable
      rw [List.eq_of_mem_replicate member]
      exact readAt_of_lookup created.found readable

/-- Files that cannot be read, or not as a configuration, are left alone, and one that is missing is
written once. -/
theorem loads_keep_nested :
    let t : FileTree :=
      ⟨[(["w", "bad"], .file [0xFF]), (["w", "own"], .file []), (["w"], .directory)], ["w"],
        [⟨.read, ["w", "own"], "Permission denied (os error 13)"⟩]⟩
    let u := (load t "new/config.toml").tree
    t.Sound ∧ readAt t "bad" = .error (.read "bad" .notUtf8) ∧
      (∀ loaded ∈ loads "bad" 3 t, loaded.tree = t) ∧
      readAt t "own" = .error (.read "own" (.other "Permission denied (os error 13)")) ∧
      (∀ loaded ∈ loads "own" 3 t, loaded.tree = t) ∧
      t.unrefused.hasPath "new/config.toml" = false ∧
      (load t "new/config.toml").result = .ok {} ∧
      ∃ location, Created "new/config.toml" location t u ∧ t.get? location = none ∧
        ∀ loaded ∈ loads "new/config.toml" 3 u, loaded.result = .ok {} ∧ loaded.tree = u := by
  intro t u
  have sound : t.Sound := ⟨FileTree.rooted_of_nodes (by decide), by decide⟩
  have absent : t.unrefused.hasPath "new/config.toml" = false := by decide +kernel
  have made : (load t "new/config.toml").result = .ok {} := by decide +kernel
  obtain ⟨-, location, created, kept, reads⟩ :=
    (loads_keep sound "new/config.toml" 3).2 absent {} made
  have free : t.get? location = none := by
    by_contra taken
    exact absurd (created.upward taken) (by decide +kernel)
  exact ⟨sound, by decide +kernel, (loads_keep sound "bad" 3).1 (by decide +kernel),
    by decide +kernel, (loads_keep sound "own" 3).1 (by decide +kernel), absent, made, location,
    created, free, fun loaded member => ⟨reads (.inl free) loaded member, kept loaded member⟩⟩

theorem loads_overwrite_upward :
    let dali : List UInt8 := Utf8.encode "syntax = \"dali\"\n".toList
    let t : FileTree := ⟨[(["w", "b"], .file dali), (["w"], .directory)], ["w"], []⟩
    let u := (load t "a/../b").tree
    t.Sound ∧ t.unrefused.hasPath "a/../b" = false ∧ (load t "a/../b").result = .ok {} ∧
      (load t "b").result = .ok { dialect := .dali } ∧ (load u "b").result = .ok {} ∧
      ¬∀ location node, t.get? location = some node → u.get? location = some node := by
  intro dali t u
  refine ⟨⟨FileTree.rooted_of_nodes (by decide +kernel), by decide⟩, by decide +kernel,
    by decide +kernel, by decide +kernel, by decide +kernel, fun kept => ?_⟩
  have before : t.get? ["w", "b"] = some (.file dali) := rfl
  have after : u.get? ["w", "b"] ≠ some (.file dali) := by decide +kernel
  exact after (kept _ _ before)

end RequestUploads.Config
