import RequestUploads.Proofs.Cleanup
import RequestUploads.Proofs.Collected
import RequestUploads.Proofs.Staging
import RequestUploads.Proofs.Startup

namespace RequestUploads
open Results

/-! ## Deletions -/

theorem mem_files_of_mem_attempts {σ : Type} {dialect : Dialect} {files : FileManager σ}
    {params : Params} {state : σ} {file : StagedFile}
    (member : file ∈ (extractUploads dialect files params state).attempts) :
    file ∈ params.files := by
  cases result : (extractUploads dialect files params state).result with
  | error refusal =>
      rw [extractUploads_of_error result] at member
      cases member
  | ok uploads =>
      by_cases found : uploads = []
      · rw [(extractUploads_of_none (.inl (found ▸ result))).1] at member
        cases member
      · exact ((mem_attempts_iff result found file).1 member).1

theorem discardAll_keep (files : List StagedFile) (t : FileTree) :
    ((FileManager.keep : FileManager FileTree).discardAll files t).2 = t := by
  induction files with
  | nil => rfl
  | cons file files ih => exact ih

theorem without_of_managerOf (config : Config) (files : List StagedFile) (t : FileTree) :
    ∃ gone : Location → Prop, (∀ location, gone location → t.Holding files location) ∧
      FileTree.Without gone t ((Command.managerOf config).discardAll files t).2 := by
  unfold Command.managerOf
  split_ifs
  · exact ⟨_, fun _ => id, t.without_discardAll files⟩
  · refine ⟨fun _ => False, fun _ => False.elim, ?_⟩
    rw [discardAll_keep]
    exact ⟨rfl, rfl, fun _ => False.elim, fun _ _ => rfl⟩

/-! ## Staged requests -/

def submissionsOf (texts : List (String × String)) (copies : List StagedFile) :
    List (String × Value) :=
  (texts.map fun (name, content) => (name, .text content)) ++ copies.map StagedFile.submission

theorem mem_submissionsOf {texts : List (String × String)} {copies : List StagedFile}
    {submission : String × Value} (member : submission ∈ submissionsOf texts copies) :
    (∃ name content, submission = (name, .text content)) ∨
      ∃ file ∈ copies, submission = file.submission := by
  rcases List.mem_append.1 member with isText | isFile
  · obtain ⟨⟨name, content⟩, -, rfl⟩ := List.mem_map.1 isText
    exact .inl ⟨name, content, rfl⟩
  · obtain ⟨file, inCopies, rfl⟩ := List.mem_map.1 isFile
    exact .inr ⟨file, inCopies, rfl⟩

namespace Stages

variable {directory : RequestDirectory} {supply : Supply} {t u : FileTree}
  {files : List (String × String)} {copies : List StagedFile}

theorem mem_copies {texts : List (String × String)} {file : StagedFile}
    (member : file ∈ (Params.collect (submissionsOf texts copies)).files) : file ∈ copies := by
  obtain ⟨submission, submitted, held⟩ := Params.exists_submission_of_mem_files member
  rcases mem_submissionsOf submitted with ⟨name, content, rfl⟩ | ⟨other, inCopies, rfl⟩
  · simp at held
  · simp only [StagedFile.submission, Value.leaves_file, List.mem_singleton, Value.file.injEq]
      at held
    rwa [held]

theorem inside (stages : Stages directory supply t files copies u) (stands : directory.Stands t)
    {file : StagedFile} (member : file ∈ copies) :
    ∃ location, directory.Inside location ∧ u.LeadsToFile file.location location := by
  obtain ⟨given, -, copy⟩ := exists_of_mem_right (stages.areCopies stands) member
  obtain ⟨location, content, inside, -, found, -⟩ := copy.content
  exact ⟨location, inside, content, found⟩

theorem attempts_inside {σ : Type} (stages : Stages directory supply t files copies u)
    (stands : directory.Stands t) (texts : List (String × String)) (dialect : Dialect)
    (manager : FileManager σ) (state : σ) {file : StagedFile}
    (member : file ∈ (extractUploads dialect manager
      (.collect (submissionsOf texts copies)) state).attempts) :
    ∃ location, directory.Inside location ∧ u.LeadsToFile file.location location :=
  stages.inside stands (mem_copies (mem_files_of_mem_attempts member))

end Stages

theorem stages_of_stageAll {directory : RequestDirectory} {supply : Supply} {t u : FileTree}
    {texts files : List (String × String)} {params : Params} (stands : directory.Stands t)
    (staged : Command.stageAll directory supply (Command.textParams texts) t files =
      .ok (params, u)) :
    ∃ copies, Stages directory supply t files copies u ∧
      params = .collect (submissionsOf texts copies) :=
  Stages.of_stageAll stands staged

theorem extractStaged_kept {directory : RequestDirectory} {t : FileTree}
    (stands : directory.Stands t) (supply : Supply) (config : Config) (options : ExtractOptions) :
    let after := (Command.extractStaged supply config options directory t).2
    after.working = t.working ∧ after.refusals = t.refusals ∧
      ∀ location, ¬directory.Inside location → after.get? location = t.get? location := by
  unfold Command.extractStaged
  split
  · exact ⟨rfl, rfl, fun _ _ => rfl⟩
  · rename_i params u staged
    obtain ⟨copies, stages, rfl⟩ := stages_of_stageAll stands staged
    have grown := stages.grown stands
    obtain ⟨gone, deleted, without⟩ := without_of_managerOf config (extractUploads
      (options.dialect.getD config.dialect) (Command.managerOf config)
      (.collect (submissionsOf options.params copies)) u).attempts u
    simp only [state_eq_discardAll]
    refine ⟨without.working.trans grown.working, without.refusals.trans grown.refusals,
      fun location outside => (without.kept location fun isGone => ?_).trans ?_⟩
    · obtain ⟨file, member, removes⟩ := deleted location isGone
      obtain ⟨place, inside, leadsThere⟩ := stages.attempts_inside stands _ _ _ _ member
      exact outside (removes.1.unique leadsThere ▸ inside)
    · exact grown.get?_of_not_added fun _ => outside

theorem remove_extractStaged {directory : RequestDirectory} {t : FileTree}
    (stands : directory.Stands t) (inner : directory.location ≠ []) (supply : Supply)
    (config : Config) (options : ExtractOptions) (location : Location) :
    (directory.remove (Command.extractStaged supply config options directory t).2).get? location =
      if directory.location <+: location then none else t.get? location := by
  rw [RequestDirectory.remove, FileTree.get?_dropAll inner]
  split_ifs with below
  · rfl
  · refine (extractStaged_kept stands supply config options).2.2 location ?_
    rintro ⟨name, rfl⟩
    exact below (List.prefix_append _ _)

theorem extends_extractBelow {added : Location → Node → Prop} {t : FileTree} (rooted : t.Rooted)
    (supply : Supply) (config : Config) (options : ExtractOptions) {root : String}
    (named : root ≠ "") :
    FileTree.Extends added t (Command.extractBelow supply config options root t).2 := by
  unfold Command.extractBelow
  split
  · exact .refl t
  · rename_i directory u made
    obtain ⟨stands, free, grown⟩ := RequestDirectory.make_eq_ok named made
    obtain ⟨working, refusals, -⟩ := extractStaged_kept stands supply config options
    refine .of_get?_eq (working.trans grown.working) (refusals.trans grown.refusals) ?_
    intro location
    rw [remove_extractStaged stands (FileTree.ne_nil_of_free free)]
    split_ifs with below
    · -- the location of the directory was free, and so was all that is below it
      obtain ⟨rest, rfl⟩ := below
      exact (rooted.get?_below free rest).symm
    · refine grown.get?_of_not_added fun node => ?_
      rintro ⟨rfl, -⟩
      exact below List.prefix_rfl

/-! ## Runs that come to a request -/

def stagingRoot (config : Config) (tempDir : String) (t : FileTree) :
    Except Command.Failure String × FileTree :=
  match config.stagingDir with
  | none => (.ok (t.absolutePath tempDir), t)
  | some path => match t.makeDirectories (FilePath.ofText path) with
    | (.error failure, t) => (.error (.stagingDir path failure), t)
    | (.ok (), t) => (.ok (t.absolutePath path), t)

theorem carryOut_eq (options : ExtractOptions) (supply : Supply) (config : Config)
    (tempDir : String) (t : FileTree) :
    options.carryOut supply config tempDir t =
      match stagingRoot config tempDir t with
      | (.error failure, t) => (.error failure, t)
      | (.ok root, t) => Command.extractBelow supply config options root t := by
  unfold ExtractOptions.carryOut stagingRoot
  cases config.stagingDir with
  | none => rfl
  | some path =>
      simp only
      cases t.makeDirectories (FilePath.ofText path) with
      | mk result u => cases result <;> rfl

theorem absolutePath_ne_empty (t : FileTree) (path : String) : t.absolutePath path ≠ "" := by
  unfold FileTree.absolutePath
  split_ifs with absolute
  · rintro rfl
    exact absurd absolute (by decide)
  · unfold FilePath.under FileTree.workingPath
    split_ifs <;> simp

theorem stagingRoot_ne_empty {config : Config} {tempDir root : String} {t u : FileTree}
    (begun : stagingRoot config tempDir t = (.ok root, u)) : root ≠ "" := by
  unfold stagingRoot at begun
  split at begun
  · simp only [Prod.mk.injEq, Except.ok.injEq] at begun
    exact begun.1 ▸ absolutePath_ne_empty t tempDir
  · split at begun
    · simp at begun
    · simp only [Prod.mk.injEq, Except.ok.injEq] at begun
      exact begun.1 ▸ absolutePath_ne_empty _ _

theorem extends_stagingRoot (config : Config) (tempDir : String) (t : FileTree) :
    FileTree.Extends (fun location node =>
      ∃ path, config.stagingDir = some path ∧ t.OnTheWayTo path location node)
      t (stagingRoot config tempDir t).2 := by
  unfold stagingRoot
  split
  · exact .refl t
  · rename_i path configured
    have way : FileTree.Extends (fun location node =>
        ∃ path, config.stagingDir = some path ∧ t.OnTheWayTo path location node)
        t (t.makeDirectories (FilePath.ofText path)).2 :=
      (t.extends_makeDirectories _).mono fun _ _ onTheWay => ⟨path, configured, onTheWay⟩
    split
    · rename_i failure u made
      rwa [made] at way
    · rename_i u made
      rwa [made] at way

namespace Program

/-- A run comes to stage a request: what it is asked for, its configuration, and the directory of
the request in the tree then. -/
structure Begins (supply : Supply) (places : Places) (t : FileTree) (arguments : List String)
    (options : ExtractOptions) (config : Config) (directory : RequestDirectory) (u : FileTree) :
    Prop where
  command : Command.parse arguments = .ok (.extract options)
  configured : (loadConfig places (openLog places t).2).1 = .ok config
  made : ∃ root v, stagingRoot config places.tempDir (loadConfig places (openLog places t).2).2 =
    (.ok root, v) ∧ RequestDirectory.make supply v root = .ok (directory, u)

def effectOf (supply : Supply) (options : ExtractOptions) (config : Config)
    (directory : RequestDirectory) (t : FileTree) : Effect :=
  match Command.extractStaged supply config options directory t with
  | (.error failure, t) => ([], some failure, directory.remove t)
  | (.ok report, t) => (options.linesOf report, none, directory.remove t)

theorem run_of_begins {supply : Supply} {places : Places} {t u : FileTree}
    {arguments : List String} {options : ExtractOptions} {config : Config}
    {directory : RequestDirectory}
    (begins : Begins supply places t arguments options config directory u) :
    run supply places t arguments =
      completed (logWarning (openLog places t).1)
        (effectOf supply options config directory u) := by
  obtain ⟨command, configured, root, v, begun, made⟩ := begins
  rw [run_of_command command configured]
  simp only [carryOut, carryOut_eq, begun, Command.extractBelow, made, effectOf]
  cases Command.extractStaged supply config options directory u with
  | mk result w => cases result <;> rfl

theorem Begins.stands {supply : Supply} {places : Places} {t u : FileTree}
    {arguments : List String} {options : ExtractOptions} {config : Config}
    {directory : RequestDirectory}
    (begins : Begins supply places t arguments options config directory u) :
    directory.Stands u ∧ t.get? directory.location = none ∧
      FileTree.Extends (fun _ _ => True) t u := by
  obtain ⟨root, v, begun, made⟩ := begins.made
  obtain ⟨stands, free, grown⟩ := RequestDirectory.make_eq_ok (stagingRoot_ne_empty begun) made
  have log := extends_openLog places t
  have loaded := extends_loadConfig places (openLog places t).2
  have rootMade := extends_stagingRoot config places.tempDir
    (loadConfig places (openLog places t).2).2
  rw [begun] at rootMade
  have any {added : Location → Node → Prop} {t u : FileTree}
      (grown : FileTree.Extends added t u) : FileTree.Extends (fun _ _ => True) t u :=
    grown.mono fun _ _ _ => trivial
  have before := ((any log).trans (any loaded)).trans (any rootMade)
  exact ⟨stands, before.get?_eq_none free, before.trans (any grown)⟩

end Program

end RequestUploads
