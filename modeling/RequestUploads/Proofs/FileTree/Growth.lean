import Mathlib.Data.List.Induction
import Mathlib.Data.List.Infix
import RequestUploads.Proofs.FileTree.Paths

/-!
# Trees that only grow

Making files and directories at locations that are free keeps all that is there
(`FileTree.Extends`), so whatever a path leads to it goes on leading to (`Extends.lookup`).  Making
a directory with the missing ones on the way adds directories only, at locations that the path
leads through (`FileTree.extends_makeDirectories`).  In a tree every file is in a directory
(`FileTree.Rooted`), which stays so when the tree grows; hence nothing is below a free location, and
a path that does not go up leads to nothing old that it did not lead to before
(`Extends.locate_of_present`).
-/

namespace RequestUploads.FileTree
open Results

def Rooted (t : FileTree) : Prop :=
  ∀ parent name, t.get? (parent ++ [name]) ≠ none → t.get? parent = some .directory

theorem mem_of_find? {location : Location} {node : Node} {nodes : List (Location × Node)}
    (held : find? location nodes = some node) : location ∈ nodes.map (·.1) := by
  induction nodes with
  | nil => cases held
  | cons entry nodes ih =>
      by_cases same : entry.1 = location
      · simp [same]
      · rw [find?, if_neg same] at held
        exact List.mem_cons_of_mem _ (ih held)

theorem mem_of_get? {t : FileTree} {location : Location} {node : Node} (inner : location ≠ [])
    (held : t.get? location = some node) : location ∈ t.nodes.map (·.1) := by
  rw [get?, if_neg inner] at held
  exact mem_of_find? held

/-- Every file and directory but the root is in a directory, and nothing but what is there refuses
to be read. -/
structure Sound (t : FileTree) : Prop where
  rooted : t.Rooted
  unread : ∀ refusal ∈ t.refusals, refusal.access = .read → t.get? refusal.location ≠ none

theorem Sound.readable {t : FileTree} (sound : t.Sound) {location : Location}
    (free : t.get? location = none) : t.refusal? .read location = none := by
  rw [refusal?, Option.map_eq_none_iff, List.find?_eq_none]
  intro refusal member refused
  obtain ⟨isRead, rfl⟩ := of_decide_eq_true refused
  exact sound.unread refusal member isRead free

theorem rooted_of_nodes {t : FileTree}
    (listed : ∀ entry ∈ t.nodes, t.get? entry.1.dropLast = some .directory) : t.Rooted := by
  intro parent name present
  obtain ⟨node, held⟩ := Option.ne_none_iff_exists'.1 present
  obtain ⟨entry, member, same⟩ := List.mem_map.1 (mem_of_get? (by simp) held)
  simpa [same] using listed entry member

theorem Rooted.get?_below {t : FileTree} (rooted : t.Rooted) {location : Location}
    (free : t.get? location = none) (below : Location) : t.get? (location ++ below) = none := by
  induction below using List.reverseRecOn with
  | nil => rwa [List.append_nil]
  | append_singleton below name ih =>
      by_contra present
      rw [← List.append_assoc] at present
      rw [rooted _ _ present] at ih
      cases ih

/-- The second tree is the first one with files and directories that were added to it. -/
structure Extends (added : Location → Node → Prop) (t u : FileTree) : Prop where
  working : u.working = t.working
  refusals : u.refusals = t.refusals
  kept : ∀ location node, t.get? location = some node → u.get? location = some node
  new : ∀ location node, t.get? location = none → u.get? location = some node → added location node
  rooted : t.Rooted → u.Rooted

namespace Extends

variable {added : Location → Node → Prop} {t u v : FileTree}

theorem refl (t : FileTree) : Extends added t t where
  working := rfl
  refusals := rfl
  kept _ _ held := held
  new location node free held := by rw [free] at held; cases held
  rooted := id

theorem trans (first : Extends added t u) (second : Extends added u v) : Extends added t v where
  working := second.working.trans first.working
  refusals := second.refusals.trans first.refusals
  kept location node held := second.kept location node (first.kept location node held)
  new location node free held := by
    cases between : u.get? location with
    | none => exact second.new location node between held
    | some other =>
        rw [second.kept location other between, Option.some.injEq] at held
        exact first.new location node free (between.trans (congrArg some held))
  rooted := second.rooted ∘ first.rooted

theorem of_get?_eq (working : u.working = t.working) (refusals : u.refusals = t.refusals)
    (same : ∀ location, u.get? location = t.get? location) : Extends added t u where
  working := working
  refusals := refusals
  kept location node held := (same location).trans held
  new location node free held := by
    rw [same, free] at held
    cases held
  rooted rooted parent name present := by
    rw [same] at present ⊢
    exact rooted parent name present

theorem mono {more : Location → Node → Prop} (grown : Extends added t u)
    (allowed : ∀ location node, added location node → more location node) : Extends more t u :=
  ⟨grown.working, grown.refusals, grown.kept, fun location node free held =>
    allowed location node (grown.new location node free held), grown.rooted⟩

theorem get?_eq_none (grown : Extends added t u) {location : Location}
    (free : u.get? location = none) : t.get? location = none := by
  by_contra present
  obtain ⟨node, held⟩ := Option.ne_none_iff_exists'.1 present
  rw [grown.kept location node held] at free
  cases free

theorem get?_of_not_added (grown : Extends added t u) {location : Location}
    (notAdded : ∀ node, ¬added location node) : u.get? location = t.get? location := by
  cases before : t.get? location with
  | some node => exact grown.kept location node before
  | none =>
      by_contra present
      obtain ⟨node, held⟩ := Option.ne_none_iff_exists'.1 present
      exact notAdded node (grown.new location node before held)

theorem walk (grown : Extends added t u) {here location : Location} {names : List String}
    (leads : t.walk here names = .ok location) : u.walk here names = .ok location := by
  induction names generalizing here with
  | nil => exact leads
  | cons name names ih =>
      rw [walk_cons_eq_ok_iff, ← refusal?_congr grown.refusals] at leads
      obtain ⟨isDirectory, permitted, short, later⟩ := leads
      exact walk_cons_eq_ok_iff.2 ⟨grown.kept _ _ isDirectory, permitted, short, ih later⟩

theorem locate (grown : Extends added t u) {path : String} {location : Location}
    (leads : t.locate path = .ok location) : u.locate path = .ok location := by
  rw [locate_eq_ok_iff] at leads ⊢
  refine ⟨leads.1, leads.2.1, leads.2.2.1, ?_⟩
  rw [start, grown.working]
  exact grown.walk leads.2.2.2

theorem lookup (grown : Extends added t u) {path : String} {location : Location} {node : Node}
    (leads : t.lookup path = .ok (location, node)) : u.lookup path = .ok (location, node) := by
  rw [lookup_eq_ok_iff] at leads ⊢
  exact ⟨grown.locate leads.1, grown.kept _ _ leads.2.1, leads.2.2⟩

theorem read (grown : Extends added t u) {path : String} {content : List UInt8}
    (held : t.read path = .ok content) : u.read path = .ok content := by
  obtain ⟨location, found, permitted⟩ := read_eq_ok_iff.1 held
  rw [← refusal?_congr grown.refusals] at permitted
  exact read_eq_ok_iff.2 ⟨location, grown.lookup found, permitted⟩

end Extends

/-! ## One location -/

theorem extends_put {t : FileTree} {parent : Location} {name : String}
    (isDirectory : t.get? parent = some .directory) (free : t.get? (parent ++ [name]) = none)
    (node : Node) :
    Extends (fun location held => location = parent ++ [name] ∧ held = node) t
      (t.put (parent ++ [name]) node) where
  working := rfl
  refusals := rfl
  kept location held present := by
    rwa [get?_put_of_ne]
    rintro rfl
    rw [free] at present
    cases present
  new location held absent present := by
    by_cases same : location = parent ++ [name]
    · subst same
      rw [get?_put_self (by simp), Option.some.injEq] at present
      exact ⟨rfl, present.symm⟩
    · rw [get?_put_of_ne same, absent] at present
      cases present
  rooted rooted other last present := by
    have keeps : t.get? other = some .directory →
        (t.put (parent ++ [name]) node).get? other = some .directory := by
      intro held
      rwa [get?_put_of_ne]
      rintro rfl
      rw [free] at held
      cases held
    by_cases same : other ++ [last] = parent ++ [name]
    · rw [(List.append_inj' same rfl).1] at keeps ⊢
      exact keeps isDirectory
    · rw [get?_put_of_ne same] at present
      exact keeps (rooted other last present)

/-! ## Directories -/

theorem eq_foldl_moved_of_walk {t : FileTree} {here location : Location} {names : List String}
    (leads : t.walk here names = .ok location) : location = names.foldl moved here := by
  induction names generalizing here with
  | nil => exact (Except.ok.inj leads).symm
  | cons name names ih => exact ih (walk_cons_eq_ok_iff.1 leads).2.2.2

/-- What is added when a directory is made at the end of names or on the way there. -/
def OnTheWay (origin : Location) (names : List String) (location : Location) (node : Node) : Prop :=
  node = .directory ∧ ∃ front, front <+: names ∧ location = front.foldl moved origin

instance (origin : Location) (names : List String) (location : Location) (node : Node) :
    Decidable (OnTheWay origin names location node) :=
  decidable_of_iff (node = .directory ∧ ∃ front ∈ names.inits, location = front.foldl moved origin)
    (by simp only [OnTheWay, List.mem_inits])

theorem OnTheWay.of_prefix {origin : Location} {front names : List String} {location : Location}
    {node : Node} (earlier : front <+: names) (onTheWay : OnTheWay origin front location node) :
    OnTheWay origin names location node := by
  obtain ⟨isDirectory, start, begins, same⟩ := onTheWay
  exact ⟨isDirectory, start, begins.trans earlier, same⟩

def LeadsToDirectory (t : FileTree) (origin : Location) (names : List String) : Prop :=
  ∃ location, t.walk origin names = .ok location ∧ t.get? location = some .directory

section
variable {t u : FileTree} {origin : Location} {names : List String}

theorem isDirectory_iff : t.isDirectory origin names = true ↔ t.LeadsToDirectory origin names := by
  unfold isDirectory LeadsToDirectory
  cases t.walk origin names with
  | error failure => simp
  | ok location => simp

theorem makeDirectory_eq_ok (made : t.makeDirectory origin names = .ok u) :
    Extends (OnTheWay origin names) t u ∧ u.LeadsToDirectory origin names := by
  unfold makeDirectory at made
  cases leads : t.walk origin names with
  | error failure => rw [leads] at made; cases made
  | ok location =>
      simp only [leads, ok_bind] at made
      cases free : t.get? location with
      | some node => simp [free] at made
      | none =>
          simp only [free] at made
          split_ifs at made with named
          obtain ⟨-, made⟩ := permit_bind_eq_ok_iff.1 made
          obtain ⟨name, last, plain⟩ := (Option.any_eq_true _ _).1 named
          obtain ⟨notHere, notUp⟩ := of_decide_eq_true plain
          obtain ⟨front, rfl⟩ := List.getLast?_eq_some_iff.1 last
          obtain ⟨parent, -, isDirectory, -, -, same⟩ := walk_concat_eq_ok_iff.1 leads
          rw [moved_of_plain notHere notUp] at same
          subst same
          rw [← Except.ok.inj made]
          have grown := extends_put isDirectory free .directory
          refine ⟨grown.mono ?_, _, grown.walk leads, get?_put_self (by simp) _⟩
          rintro _ _ ⟨rfl, rfl⟩
          exact ⟨rfl, _, List.prefix_rfl, eq_foldl_moved_of_walk leads⟩

theorem LeadsToDirectory.unrefused (leads : t.LeadsToDirectory origin names) :
    t.unrefused.LeadsToDirectory origin names := by
  obtain ⟨location, walks, isDirectory⟩ := leads
  exact ⟨location, walk_unrefused walks, isDirectory⟩

theorem makeDirectory_of_leads (leads : t.unrefused.LeadsToDirectory origin names) :
    ∃ failure, t.makeDirectory origin names = .error failure ∧ failure ≠ .notFound := by
  obtain ⟨location, walks, isDirectory⟩ := leads
  rw [get?_unrefused] at isDirectory
  rcases walk_of_unrefused walks with walks | ⟨reason, refused⟩
  · exact ⟨.alreadyExists, by simp [makeDirectory, walks, isDirectory], nofun⟩
  · exact ⟨.other reason, by simp [makeDirectory, refused], nofun⟩

theorem extends_makeOne (t : FileTree) (origin : Location) (names : List String) :
    Extends (OnTheWay origin names) t (t.makeOne origin names).2 := by
  unfold makeOne
  cases made : t.makeDirectory origin names with
  | ok u => exact (makeDirectory_eq_ok made).1
  | error failure => exact .refl t

theorem leads_of_makeOne (made : t.makeOne origin names = (.ok (), u)) :
    u.LeadsToDirectory origin names := by
  unfold makeOne at made
  cases one : t.makeDirectory origin names with
  | ok v =>
      simp only [one, Prod.mk.injEq, true_and] at made
      exact made ▸ (makeDirectory_eq_ok one).2
  | error failure =>
      simp only [one, Prod.mk.injEq] at made
      obtain ⟨there, rfl⟩ := made
      split_ifs at there with isDirectory
      exact isDirectory_iff.1 isDirectory

theorem extends_makeUpTo (t : FileTree) (origin : Location) (reversed : List String) :
    Extends (OnTheWay origin reversed.reverse) t (t.makeUpTo origin reversed).2 := by
  induction reversed with
  | nil => exact .refl t
  | cons name before ih =>
      have one (u : FileTree) := extends_makeOne u origin (name :: before).reverse
      have earlier : before.reverse <+: (name :: before).reverse := by
        rw [List.reverse_cons]
        exact List.prefix_append _ _
      have way := ih.mono fun _ _ => OnTheWay.of_prefix earlier
      unfold makeUpTo
      split
      · split
        · rename_i u made
          rw [made] at way
          exact way.trans (one u)
        · exact way
      · exact one t

theorem leads_of_makeUpTo {name : String} {before : List String}
    (made : t.makeUpTo origin (name :: before) = (.ok (), u)) :
    u.LeadsToDirectory origin (name :: before).reverse := by
  unfold makeUpTo at made
  split at made
  · split at made
    · exact leads_of_makeOne made
    · rename_i failed _ notMade
      exact absurd made (notMade u)
  · exact leads_of_makeOne made

end

/-! ## Paths of directories -/

def OnTheWayTo (t : FileTree) (path : String) : Location → Node → Prop :=
  OnTheWay (t.start (FilePath.ofText path)) (FilePath.ofText path).moves

instance (t : FileTree) (path : String) (location : Location) (node : Node) :
    Decidable (t.OnTheWayTo path location node) :=
  inferInstanceAs (Decidable (OnTheWay _ _ location node))

theorem onTheWayTo_congr {t u : FileTree} (working : u.working = t.working) (path : String) :
    u.OnTheWayTo path = t.OnTheWayTo path := by
  rw [OnTheWayTo, OnTheWayTo, start, start, working]

section
variable {t u : FileTree} {p : FilePath}

theorem extends_makeDirectories (t : FileTree) (p : FilePath) :
    Extends (OnTheWay (t.start p) p.moves) t (t.makeDirectories p).2 := by
  unfold makeDirectories
  split
  · exact .refl t
  · simpa using extends_makeUpTo t (t.start p) p.moves.reverse

theorem leads_of_makeDirectories (named : p.moves ≠ [])
    (made : t.makeDirectories p = (.ok (), u)) : u.LeadsToDirectory (t.start p) p.moves := by
  unfold makeDirectories at made
  split at made
  · cases made
  · cases reversed : p.moves.reverse with
    | nil => exact absurd (List.reverse_eq_nil_iff.1 reversed) named
    | cons name before =>
        rw [reversed] at made
        have leads := leads_of_makeUpTo made
        rwa [← reversed, List.reverse_reverse] at leads

theorem makeDirectories_of_leads (leads : t.unrefused.LeadsToDirectory (t.start p) p.moves) :
    (t.makeDirectories p).2 = t := by
  unfold makeDirectories
  split
  · rfl
  · cases reversed : p.moves.reverse with
    | nil => rfl
    | cons name before =>
        rw [← List.reverse_reverse p.moves, reversed] at leads
        obtain ⟨failure, fails, found⟩ := makeDirectory_of_leads leads
        simp only [makeUpTo, makeOne, fails]
        cases failure with
        | notFound => exact absurd rfl found
        | _ => rfl

end

/-! ## Paths with their directories -/

theorem parents_moves (path : String) :
    FilePath.moves { FilePath.ofText path with names := (FilePath.ofText path).moves.dropLast } =
      (FilePath.ofText path).moves.dropLast := by
  refine List.filter_eq_self.2 fun name member => ?_
  exact (List.mem_filter.1 (List.mem_of_mem_dropLast member)).2

theorem extends_makeParents (t : FileTree) (path : String) :
    Extends (OnTheWay (t.start (FilePath.ofText path)) (FilePath.ofText path).moves.dropLast) t
      (t.makeParents path).2 := by
  rw [← parents_moves]
  exact t.extends_makeDirectories _

theorem makeParents_of_present {t : FileTree} {path : String} {location : Location}
    (leads : t.unrefused.locate path = .ok location) : (t.makeParents path).2 = t := by
  rw [makeParents]
  cases moves : (FilePath.ofText path).moves.reverse with
  | nil =>
      rw [List.reverse_eq_nil_iff.1 moves]
      unfold makeDirectories
      split <;> rfl
  | cons name before =>
      apply makeDirectories_of_leads
      have names := List.reverse_eq_cons_iff.1 moves
      have walks := walk_filter (locate_eq_ok_iff.1 leads).2.2.2
      rw [← FilePath.moves, names, walk_concat_eq_ok_iff] at walks
      obtain ⟨parent, there, isDirectory, -⟩ := walks
      rw [parents_moves, names, List.dropLast_concat]
      exact ⟨parent, there, isDirectory⟩

theorem prefix_foldl_moved {names : List String} (noUp : ".." ∉ names) (here : Location) :
    here <+: names.foldl moved here := by
  induction names generalizing here with
  | nil => exact List.prefix_rfl
  | cons name names ih =>
      simp only [List.mem_cons, not_or] at noUp
      refine List.IsPrefix.trans ?_ (ih noUp.2 (moved here name))
      rw [moved, if_neg (Ne.symm noUp.1)]
      split_ifs
      · exact List.prefix_rfl
      · exact List.prefix_append _ _

/-- Names that do not go up lead to what is old only if they did so before the tree had grown. -/
theorem Extends.walk_of_present {added : Location → Node → Prop} {t u : FileTree}
    (grown : Extends added t u) (rooted : t.Rooted) {here location : Location}
    {names : List String} (noUp : ".." ∉ names) (leads : u.walk here names = .ok location)
    (present : t.get? location ≠ none) : t.walk here names = .ok location := by
  induction names generalizing here with
  | nil => exact leads
  | cons name names ih =>
      obtain ⟨rest, below⟩ := prefix_foldl_moved noUp here
      rw [← eq_foldl_moved_of_walk leads] at below
      obtain ⟨isDirectory, permitted, short, later⟩ := walk_cons_eq_ok_iff.1 leads
      have held : t.get? here = some .directory := by
        cases before : t.get? here with
        | none => exact absurd (below ▸ rooted.get?_below before rest) present
        | some node => rw [← grown.kept here node before, isDirectory]
      simp only [List.mem_cons, not_or] at noUp
      rw [refusal?_congr grown.refusals] at permitted
      exact walk_cons_eq_ok_iff.2 ⟨held, permitted, short, ih noUp.2 later⟩

theorem Extends.locate_of_present {added : Location → Node → Prop} {t u : FileTree}
    (grown : Extends added t u) (rooted : t.Rooted) {path : String} {location : Location}
    (noUp : ".." ∉ (FilePath.ofText path).names) (leads : u.locate path = .ok location)
    (present : t.get? location ≠ none) : t.locate path = .ok location := by
  rw [locate_eq_ok_iff] at leads ⊢
  refine ⟨leads.1, leads.2.1, leads.2.2.1, ?_⟩
  have walks := leads.2.2.2
  rw [start, grown.working] at walks
  exact grown.walk_of_present rooted noUp walks present

end RequestUploads.FileTree
