import RequestUploads.Proofs.Requests

namespace RequestUploads

namespace Program

/-- What a run provides for itself: the directory of its configuration with those on the way, the
default configuration, and the configured staging directory with those on the way. -/
inductive Provides (places : Places) (arguments : List String) (before after : FileTree)
    (location : Location) (node : Node) : Prop
  | configDir : before.OnTheWayTo places.configDir location node →
      Provides places arguments before after location node
  | config : places.IsDefaultConfig after location node →
      Provides places arguments before after location node
  | stagingDir {options : ExtractOptions} {config : Config} {path : String} :
      Command.parse arguments = .ok (.extract options) →
      (loadConfig places (openLog places before).2).1 = .ok config →
      config.stagingDir = some path → before.OnTheWayTo path location node →
      Provides places arguments before after location node

/-! ## The tree after a run -/

@[simp] theorem tree_stopped (warning : String) (t : FileTree) (stop : Command.Stop) :
    (stopped warning t stop).tree = t := by
  cases stop <;> simp only [stopped]

@[simp] theorem tree_completed (warning : String) (effect : Effect) :
    (completed warning effect).tree = effect.2.2 := by
  obtain ⟨lines, _ | failure, t⟩ := effect <;> simp only [completed]

theorem tree_run (supply : Supply) (places : Places) (t : FileTree)
    (arguments : List String) :
    (run supply places t arguments).tree =
      match Command.parse arguments with
      | .error _ => (openLog places t).2
      | .ok command => (perform supply places (openLog places t).2 command).2.2 := by
  unfold run
  cases Command.parse arguments with
  | error stop => simp only [tree_stopped]
  | ok command => simp only [tree_completed]

theorem extends_carryOut {t : FileTree} (rooted : t.Rooted) (supply : Supply) (places : Places)
    (config : Config) (command : Command) :
    FileTree.Extends (fun location node => (∃ options, command = .extract options) ∧
      ∃ path, config.stagingDir = some path ∧ t.OnTheWayTo path location node)
      t (carryOut supply places config t command).2.2 := by
  cases command with
  | check options => exact .refl t
  | extract options =>
      have tree : (carryOut supply places config t (.extract options)).2.2 =
          (options.carryOut supply config places.tempDir t).2 := by
        simp only [carryOut]
        obtain ⟨failure | report, u⟩ := options.carryOut supply config places.tempDir t <;> rfl
      have rootMade := extends_stagingRoot config places.tempDir t
      rw [tree, carryOut_eq]
      refine FileTree.Extends.mono ?_ fun _ _ onTheWay => ⟨⟨options, rfl⟩, onTheWay⟩
      split
      · rename_i failure u begun
        rwa [begun] at rootMade
      · rename_i root u begun
        rw [begun] at rootMade
        exact rootMade.trans (extends_extractBelow (rootMade.rooted rooted) supply config options
          (stagingRoot_ne_empty begun))

theorem extends_run {t : FileTree} (rooted : t.Rooted) (supply : Supply) (places : Places)
    (arguments : List String) :
    FileTree.Extends (fun location node =>
      places.InLog (run supply places t arguments).tree location ∨
        t.OnTheWayTo places.logDir location node ∨
        Provides places arguments t (run supply places t arguments).tree location node)
      t (run supply places t arguments).tree := by
  have log := extends_openLog places t
  have loaded := extends_loadConfig places (openLog places t).2
  rw [tree_run]
  split
  · exact log.mono fun _ _ => Or.rec (fun onTheWay => .inr (.inl onTheWay)) .inl
  · rename_i command parsed
    have working := loaded.working.trans log.working
    have rootedThen := loaded.rooted (log.rooted rooted)
    -- what comes after the configuration, if it was loaded
    have later : FileTree.Extends (fun location node =>
        Provides places arguments t (perform supply places (openLog places t).2 command).2.2 location node)
        (loadConfig places (openLog places t).2).2
        (perform supply places (openLog places t).2 command).2.2 := by
      cases loading : loadConfig places (openLog places t).2 with
      | mk result u =>
          rw [loading] at working rootedThen
          simp only [perform, loading]
          cases result with
          | error failure => exact .refl u
          | ok config =>
              refine (extends_carryOut rootedThen supply places config command).mono ?_
              rintro location node ⟨⟨options, rfl⟩, path, asked, onTheWay⟩
              rw [FileTree.onTheWayTo_congr working] at onTheWay
              exact .stagingDir parsed (by rw [loading]) asked onTheWay
    refine ((log.mono ?_).trans (loaded.mono ?_)).trans (later.mono fun _ _ => .inr ∘ .inr)
    · rintro location node (onTheWay | ⟨parent, found, begins⟩)
      · exact .inr (.inl onTheWay)
      · exact .inl ⟨parent, later.lookup (loaded.lookup found), begins⟩
    · rintro location node (onTheWay | ⟨found, isDefault⟩)
      · rw [FileTree.onTheWayTo_congr log.working] at onTheWay
        exact .inr (.inr (.configDir onTheWay))
      · exact .inr (.inr (.config ⟨later.lookup found, isDefault⟩))

theorem Begins.gone {supply : Supply} {places : Places} {t u : FileTree} (rooted : t.Rooted)
    {arguments : List String} {options : ExtractOptions} {config : Config}
    {directory : RequestDirectory}
    (begins : Begins supply places t arguments options config directory u) {location : Location}
    (below : directory.location <+: location) :
    t.get? location = none ∧ (run supply places t arguments).tree.get? location = none := by
  obtain ⟨stands, free, -⟩ := begins.stands
  have tree : (run supply places t arguments).tree =
      directory.remove (Command.extractStaged supply config options directory u).2 := by
    rw [run_of_begins begins, tree_completed, effectOf]
    obtain ⟨failure | report, v⟩ := Command.extractStaged supply config options directory u <;> rfl
  constructor
  · obtain ⟨rest, rfl⟩ := below
    exact rooted.get?_below free rest
  · rw [tree, remove_extractStaged stands (FileTree.ne_nil_of_free free), if_pos below]

end Program

theorem run_leaves_tree {t : FileTree} (rooted : t.Rooted) (supply : Supply)
    (places : Program.Places) (arguments : List String) :
    let done := Program.run supply places t arguments
    (∀ location, ¬places.InLog done.tree location →
      (∀ node, t.get? location = some node → done.tree.get? location = some node) ∧
      ∀ node, t.get? location = none → done.tree.get? location = some node →
        t.OnTheWayTo places.logDir location node ∨
          Program.Provides places arguments t done.tree location node) ∧
    ∀ options config directory u,
      Program.Begins supply places t arguments options config directory u →
      (∀ location, directory.location <+: location →
        t.get? location = none ∧ done.tree.get? location = none) ∧
      ∀ params v, Command.stageAll directory supply (Command.textParams options.params) u
          options.files = .ok (params, v) →
        ∀ file ∈ (extractUploads (options.dialect.getD config.dialect) (Command.managerOf config)
            params v).attempts,
          ∃ location, directory.Inside location ∧ v.LeadsToFile file.location location := by
  intro done
  have grown := Program.extends_run rooted supply places arguments
  refine ⟨fun location outside => ⟨grown.kept location, ?_⟩, ?_⟩
  · intro node free held
    exact (grown.new location node free held).resolve_left outside
  · intro options config directory u begins
    refine ⟨fun location below => begins.gone rooted below, ?_⟩
    intro params v staged file attempted
    obtain ⟨stands, -, -⟩ := begins.stands
    obtain ⟨copies, stages, rfl⟩ := stages_of_stageAll stands staged
    exact stages.attempts_inside stands options.params _ _ _ attempted

theorem not_provides_log_parents :
    let supply : Supply := ⟨[], [], fun _ => none⟩
    let places : Program.Places := ⟨"/w/config", "/w/state", "/w/tmp"⟩
    let t : FileTree := ⟨[(["w"], .directory), (["w", "tmp"], .directory)], ["w"], []⟩
    let arguments := ["check", "a,b:c"]
    let done := Program.run supply places t arguments
    t.Rooted ∧ done.exit = 0 ∧ ¬places.InLog done.tree ["w", "state"] ∧
      t.get? ["w", "state"] = none ∧ done.tree.get? ["w", "state"] = some .directory ∧
      ¬Program.Provides places arguments t done.tree ["w", "state"] .directory := by
  intro supply places t arguments done
  have notConfig : ¬t.OnTheWayTo places.configDir ["w", "state"] .directory := by decide +kernel
  have notDefault : ¬places.IsDefaultConfig done.tree ["w", "state"] .directory := by
    decide +kernel
  have parses : Command.parse arguments = .ok (.check ⟨none, ["a,b:c"]⟩) := by decide +kernel
  refine ⟨FileTree.rooted_of_nodes (by decide), by decide +kernel, by decide +kernel, rfl,
    by decide +kernel, ?_⟩
  rintro (onTheWay | isDefault | parsed)
  · exact notConfig onTheWay
  · exact notDefault isDefault
  · rw [parses] at parsed
    cases parsed

theorem run_leaves_tree_deletion :
    let supply : Supply := ⟨[⟨"q7", rfl⟩], [⟨"Zx", rfl⟩, ⟨"4b", rfl⟩], fun _ => none⟩
    let places : Program.Places := ⟨"/c", "/s", "/tmp"⟩
    let t : FileTree :=
      ⟨[(["tmp"], .directory), (["w"], .directory), (["w", "b"], .file [98])], ["w"], []⟩
    let arguments := ["extract", "--param", "UPLOAD=t,param:f", "--file", "f=b", "--file", "y=b"]
    let done := Program.run supply places t arguments
    let copy : StagedFile := ⟨"y", "/tmp/request-q7/upload-4b.bin", "b", none, some 1⟩
    t.Rooted ∧ done.exit = 0 ∧ done.tree.get? ["w", "b"] = some (.file [98]) ∧
      (∀ location, ["tmp", "request-q7"] <+: location → done.tree.get? location = none) ∧
      ∃ params v, (extractUploads .tap .disk params v).attempts = [copy] ∧
        ∃ name, v.LeadsToFile copy.location ["tmp", "request-q7", name] := by
  intro supply places t arguments done copy
  let options : ExtractOptions :=
    ⟨none, [("UPLOAD", "t,param:f")], [("f", "b"), ("y", "b")], false, false⟩
  let directory : RequestDirectory := ⟨"/tmp/request-q7", ["tmp", "request-q7"]⟩
  let before : FileTree :=
    ⟨(["c", "tapload", "config.toml"], .file (Utf8.encode (Config.text {}))) ::
      (["c", "tapload"], .directory) :: (["c"], .directory) ::
      (["s", "tapload", "tapload.log"], .file []) :: (["s", "tapload"], .directory) ::
      (["s"], .directory) :: t.nodes, ["w"], []⟩
  let begun : FileTree := ⟨(["tmp", "request-q7"], .directory) :: before.nodes, ["w"], []⟩
  let first : StagedFile := ⟨"f", "/tmp/request-q7/upload-Zx.bin", "b", none, some 1⟩
  let params := Params.collect (submissionsOf options.params [first, copy])
  let staged : FileTree :=
    ⟨(["tmp", "request-q7", "upload-4b.bin"], .file [98]) ::
      (["tmp", "request-q7", "upload-Zx.bin"], .file [98]) :: begun.nodes, ["w"], []⟩
  have rooted : t.Rooted := FileTree.rooted_of_nodes (by decide)
  have begins : Program.Begins supply places t arguments options {} directory begun :=
    ⟨by decide +kernel, by decide +kernel, "/tmp", before, by decide +kernel, by decide +kernel⟩
  have stagedAll : Command.stageAll directory supply (Command.textParams options.params) begun
      options.files = .ok (params, staged) := by decide +kernel
  have attempts : (extractUploads .tap .disk params staged).attempts = [copy] := by
    decide +kernel
  have outside : ¬places.InLog done.tree ["w", "b"] := by decide +kernel
  obtain ⟨kept, requests⟩ := run_leaves_tree rooted supply places arguments
  obtain ⟨gone, inside⟩ := requests options {} directory begun begins
  have attempted : copy ∈ (extractUploads .tap (Command.managerOf {}) params staged).attempts :=
    by decide +kernel
  obtain ⟨_, ⟨name, rfl⟩, leads⟩ := inside params staged stagedAll copy attempted
  exact ⟨rooted, by decide +kernel, (kept _ outside).1 _ rfl,
    fun location below => (gone location below).2, params, staged, attempts, name, leads⟩

end RequestUploads
