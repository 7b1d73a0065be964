import RequestUploads.Program
import RequestUploads.Proofs.FileTree.Below

namespace RequestUploads.Program
open Results

def Places.InLog (places : Places) (t : FileTree) (location : Location) : Prop :=
  ∃ parent, t.lookup places.logDir = .ok (parent, .directory) ∧ parent <+: location

instance (places : Places) (t : FileTree) (location : Location) :
    Decidable (places.InLog t location) :=
  decidable_of_iff
    ((match t.lookup places.logDir with
      | .ok (parent, .directory) => decide (parent <+: location)
      | .ok (_, .file _) | .error _ => false) = true)
    (by
      unfold Places.InLog
      split
      · rename_i parent found
        simp [found]
      · rename_i found
        simp [found]
      · rename_i found
        simp [found])

def Places.IsDefaultConfig (places : Places) (t : FileTree) (location : Location) (node : Node) :
    Prop :=
  t.lookup places.configFile = .ok (location, node) ∧
    node = .file (Utf8.encode (Config.text {}))

instance (places : Places) (t : FileTree) (location : Location) (node : Node) :
    Decidable (places.IsDefaultConfig t location node) :=
  inferInstanceAs (Decidable (_ ∧ _))

theorem name_isPlain : IsPlain name := by decide

theorem Places.logDir_ne_empty (places : Places) : places.logDir ≠ "" :=
  FilePath.under_ne_empty _ name_isPlain.nonempty

theorem Places.configDir_ne_empty (places : Places) : places.configDir ≠ "" :=
  FilePath.under_ne_empty _ name_isPlain.nonempty

/-! ## The log -/

theorem extends_touch {t u : FileTree} {directory name : String} (named : directory ≠ "")
    (plain : IsPlain name) (touched : touch t (FilePath.under directory name) = .ok u) :
    FileTree.Extends (fun location _ => ∃ parent, t.lookup directory = .ok (parent, .directory) ∧
      parent <+: location) t u := by
  unfold touch at touched
  split at touched
  · rw [← Except.ok.inj (FileTree.permit_bind_eq_ok_iff.1 touched).2]
    exact .refl t
  · cases touched
  · rename_i missing
    obtain ⟨parent, found, -, grown⟩ := FileTree.extends_write_under named plain
      (fun _ => FileTree.get?_eq_none_of_lookup named plain missing) touched
    refine grown.mono ?_
    rintro _ _ ⟨rfl, -⟩
    exact ⟨parent, found, List.prefix_append _ _⟩
  · cases touched

theorem extends_openLog (places : Places) (t : FileTree) :
    FileTree.Extends (fun location node => t.OnTheWayTo places.logDir location node ∨
      places.InLog (openLog places t).2 location) t (openLog places t).2 := by
  have way := t.extends_makeDirectories (FilePath.ofText places.logDir)
  unfold openLog
  split
  · rename_i failure u made
    rw [made] at way
    exact way.mono fun _ _ => .inl
  · rename_i u made
    rw [made] at way
    split
    · exact way.mono fun _ _ => .inl
    · rename_i v touched
      have log := extends_touch places.logDir_ne_empty (by decide) touched
      refine (way.mono fun _ _ => .inl).trans (log.mono fun location _ inLog => .inr ?_)
      obtain ⟨parent, found, begins⟩ := inLog
      exact ⟨parent, log.lookup found, begins⟩

/-! ## The configuration -/

theorem moves_under {directory name : String} (named : directory ≠ "") (plain : IsPlain name) :
    (FilePath.ofText (FilePath.under directory name)).moves =
      (FilePath.ofText directory).moves ++ [name] := by
  rw [FilePath.moves, FilePath.ofText_under named plain, List.filter_append, ← FilePath.moves]
  simp [plain.notHere]

theorem Places.moves_configDir_ne_nil (places : Places) :
    (FilePath.ofText places.configDir).moves ≠ [] := by
  by_cases named : places.configHome = ""
  · rw [Places.configDir, named]
    decide
  · rw [Places.configDir, moves_under named name_isPlain]
    simp

theorem makeParents_configFile {places : Places} {t : FileTree}
    (leads : t.LeadsToDirectory (t.start (FilePath.ofText places.configDir))
      (FilePath.ofText places.configDir).moves) :
    (t.makeParents places.configFile).2 = t := by
  have plain : IsPlain "config.toml" := by decide
  have moves : (FilePath.ofText places.configFile).moves.dropLast =
      (FilePath.ofText places.configDir).moves := by
    rw [Places.configFile, moves_under places.configDir_ne_empty plain, List.dropLast_concat]
  have absolute : (FilePath.ofText places.configFile).absolute =
      (FilePath.ofText places.configDir).absolute := by
    rw [Places.configFile, FilePath.ofText_under places.configDir_ne_empty plain]
  rw [FileTree.makeParents]
  apply FileTree.makeDirectories_of_leads
  simp only [FilePath.moves, FileTree.start] at moves leads ⊢
  rw [moves, absolute]
  exact FileTree.LeadsToDirectory.unrefused (by simpa using leads)

theorem extends_create {places : Places} {t : FileTree}
    (leads : t.LeadsToDirectory (t.start (FilePath.ofText places.configDir))
      (FilePath.ofText places.configDir).moves)
    (missing : t.hasPath places.configFile = false) :
    FileTree.Extends (places.IsDefaultConfig (Config.create t places.configFile).tree) t
      (Config.create t places.configFile).tree := by
  have same := makeParents_configFile leads
  unfold Config.create
  split
  · rename_i failure u made
    rw [made] at same
    obtain rfl : u = t := same
    exact .refl _
  · rename_i u made
    rw [made] at same
    obtain rfl : u = t := same
    split
    · exact .refl _
    · rename_i v written
      obtain ⟨failure, notFound⟩ : ∃ failure, u.lookup places.configFile = .error failure := by
        cases found : u.lookup places.configFile with
        | error failure => exact ⟨failure, rfl⟩
        | ok entry => simp [FileTree.hasPath, found, Except.toBool] at missing
      obtain ⟨parent, -, found, grown⟩ := FileTree.extends_write_under places.configDir_ne_empty
        (by decide) (fun _ => FileTree.get?_eq_none_of_lookup places.configDir_ne_empty (by decide)
          notFound) written
      refine grown.mono ?_
      rintro _ _ ⟨rfl, rfl⟩
      exact ⟨found, rfl⟩

theorem extends_loadConfig (places : Places) (t : FileTree) :
    FileTree.Extends (fun location node => t.OnTheWayTo places.configDir location node ∨
      places.IsDefaultConfig (loadConfig places t).2 location node) t (loadConfig places t).2 := by
  have way := t.extends_makeDirectories (FilePath.ofText places.configDir)
  unfold loadConfig
  split
  · rename_i failure u made
    rw [made] at way
    exact way.mono fun _ _ => .inl
  · rename_i u made
    rw [made] at way
    have leads := FileTree.leads_of_makeDirectories places.moves_configDir_ne_nil made
    rw [FileTree.start, ← way.working, ← FileTree.start] at leads
    simp only [Config.load]
    split_ifs with present
    · exact way.mono fun _ _ => .inl
    · have created := extends_create leads (Bool.eq_false_iff.2 present)
      exact (way.mono fun _ _ => .inl).trans (created.mono fun _ _ => .inr)

/-! ## Commands -/

theorem run_of_command {supply : Supply} {places : Places} {t : FileTree}
    {arguments : List String} {command : Command} {config : Config}
    (parses : Command.parse arguments = .ok command)
    (loads : (loadConfig places (openLog places t).2).1 = .ok config) :
    run supply places t arguments = completed (logWarning (openLog places t).1)
      (carryOut supply places config (loadConfig places (openLog places t).2).2 command) := by
  have loaded : loadConfig places (openLog places t).2 =
      (.ok config, (loadConfig places (openLog places t).2).2) := by rw [← loads]
  simp only [run, parses, perform]
  rw [loaded]

end RequestUploads.Program
