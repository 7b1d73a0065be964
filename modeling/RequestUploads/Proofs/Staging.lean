import RequestUploads.Command.Extract
import RequestUploads.Proofs.FileTree.Below
import RequestUploads.Proofs.Submissions

namespace RequestUploads
open Results

def StagedFile.submission (file : StagedFile) : String × Value := (file.param, .file file)

namespace RequestDirectory

variable {directory : RequestDirectory} {supply : Supply} {t u v : FileTree}

def Stands (directory : RequestDirectory) (t : FileTree) : Prop :=
  t.lookup directory.path = .ok (directory.location, .directory)

def Inside (directory : RequestDirectory) (location : Location) : Prop :=
  ∃ name, location = directory.location ++ [name]

theorem make_eq_ok {root : String} (named : root ≠ "")
    (made : RequestDirectory.make supply t root = .ok (directory, u)) :
    directory.Stands u ∧ t.get? directory.location = none ∧
      FileTree.Extends (fun location node => location = directory.location ∧ node = .directory)
        t u := by
  unfold RequestDirectory.make at made
  obtain ⟨parent, there, made⟩ := bind_eq_ok_iff.1 made
  obtain ⟨name, drawn, made⟩ := bind_eq_ok_iff.1 made
  obtain ⟨location, leads, made⟩ := bind_eq_ok_iff.1 made
  obtain ⟨-, made⟩ := FileTree.permit_bind_eq_ok_iff.1 made
  simp only [pure_eq_ok, Except.ok.injEq, Prod.mk.injEq] at made
  obtain ⟨rfl, rfl⟩ := made
  obtain ⟨free, drew, -, rfl⟩ := FileTree.freeName_eq_ok drawn
  have plain : IsPlain ("request-" ++ drew.text ++ "") :=
    FileTree.isPlain_drawn (c := 'r') rfl (by decide) (by decide) (by decide) drew
  obtain ⟨other, found, rfl⟩ := FileTree.locate_under named plain leads
  obtain ⟨leadsToo, isDirectory, -⟩ := FileTree.lookup_eq_ok_iff.1 found
  obtain rfl : parent = other := Except.ok.inj (there.symm.trans leadsToo)
  have grown := FileTree.extends_put isDirectory free .directory
  refine ⟨?_, free, grown⟩
  exact FileTree.lookup_eq_ok_iff.2
    ⟨grown.locate leads, FileTree.get?_put_self (by simp) _, .inl rfl⟩

/-- A staged file is a copy of what its source holds, at a location that was free. -/
structure IsCopy (directory : RequestDirectory) (supply : Supply) (t u : FileTree)
    (given : String × String) (file : StagedFile) : Prop where
  param : file.param = given.1
  fileName : file.fileName = FilePath.lastName? given.2
  mimeType : file.mimeType = supply.mediaType given.2
  content : ∃ location content, directory.Inside location ∧ t.get? location = none ∧
    u.lookup file.location = .ok (location, .file content) ∧
    ∀ held, t.read given.2 = .ok held → held = content

theorem newCopy_eq_ok {path : String} (drawn : directory.newCopy supply t = .ok path) :
    ∃ name, IsPlain name ∧ path = FilePath.under directory.path name ∧
      t.get? (directory.location ++ [name]) = none := by
  unfold newCopy at drawn
  obtain ⟨name, found, drawn⟩ := bind_eq_ok_iff.1 drawn
  obtain ⟨location, -, drawn⟩ := bind_eq_ok_iff.1 drawn
  obtain ⟨-, drawn⟩ := FileTree.permit_bind_eq_ok_iff.1 drawn
  obtain ⟨free, drew, -, rfl⟩ := FileTree.freeName_eq_ok found
  have plain : IsPlain ("upload-" ++ drew.text ++ ".bin") :=
    FileTree.isPlain_drawn (c := 'u') rfl (by decide) (by decide) (by decide) drew
  exact ⟨_, plain, (Except.ok.inj drawn).symm, free⟩

theorem read_of_contentOf {source : String} {content : List UInt8}
    (held : contentOf t source = .ok content) : t.read source = .ok content := by
  unfold contentOf at held
  obtain ⟨⟨location, node⟩, found, held⟩ := bind_eq_ok_iff.1 held
  obtain ⟨readable, held⟩ := FileTree.permit_bind_eq_ok_iff.1 held
  cases node with
  | directory => cases held
  | file other =>
      obtain rfl : other = content := Except.ok.inj held
      exact FileTree.read_eq_ok_iff.2 ⟨location, found, readable⟩

theorem stage_eq_ok {param source : String} {file : StagedFile} (stands : directory.Stands t)
    (staged : directory.stage supply t param source = .ok (file, u)) :
    FileTree.Extends (fun location _ => directory.Inside location) t u ∧
      directory.IsCopy supply t u (param, source) file := by
  unfold stage at staged
  obtain ⟨path, drawn, staged⟩ := bind_eq_ok_iff.1 staged
  obtain ⟨content, opened, staged⟩ := bind_eq_ok_iff.1 staged
  obtain ⟨after, written, staged⟩ := bind_eq_ok_iff.1 staged
  rw [mapError_eq_ok_iff] at drawn opened written
  simp only [pure_eq_ok, Except.ok.injEq, Prod.mk.injEq] at staged
  obtain ⟨rfl, rfl⟩ := staged
  obtain ⟨name, plain, rfl, free⟩ := newCopy_eq_ok drawn
  obtain ⟨leadsToDirectory, -, -⟩ := FileTree.lookup_eq_ok_iff.1 stands
  have named : directory.path ≠ "" := by
    simpa using (FileTree.locate_eq_ok_iff.1 leadsToDirectory).2.1
  have atName {parent : Location} (leads : t.lookup directory.path = .ok (parent, .directory)) :
      directory.location = parent := by
    rw [stands, Except.ok.injEq, Prod.mk.injEq] at leads
    exact leads.1
  have freeThere (location : Location)
      (leads : t.locate (FilePath.under directory.path name) = .ok location) :
      t.get? location = none := by
    obtain ⟨parent, foundParent, rfl⟩ := FileTree.locate_under named plain leads
    rwa [← atName foundParent]
  obtain ⟨parent, foundParent, foundCopy, grown⟩ :=
    FileTree.extends_write_under named plain freeThere written
  obtain rfl := atName foundParent
  refine ⟨grown.mono fun location node same => ⟨_, same.1⟩, rfl, rfl, rfl, ?_⟩
  refine ⟨_, content, ⟨_, rfl⟩, free, foundCopy, ?_⟩
  intro held read
  rw [read_of_contentOf opened] at read
  exact (Except.ok.inj read).symm

end RequestDirectory

/-! ## One file after the other -/

/-- Files, as names with paths, are staged one after the other: the copies, and the tree then. -/
inductive Stages (directory : RequestDirectory) (supply : Supply) :
    FileTree → List (String × String) → List StagedFile → FileTree → Prop
  | nil (t : FileTree) : Stages directory supply t [] [] t
  | cons {t u v : FileTree} {name source : String} {file : StagedFile}
      {files : List (String × String)} {copies : List StagedFile} :
      directory.stage supply t name source = .ok (file, u) →
      Stages directory supply u files copies v →
      Stages directory supply t ((name, source) :: files) (file :: copies) v

namespace Stages

variable {directory : RequestDirectory} {supply : Supply} {t u : FileTree}
  {files : List (String × String)} {copies : List StagedFile}

theorem of_stageAll {submissions : List (String × Value)} {params : Params}
    (stands : directory.Stands t)
    (staged : Command.stageAll directory supply (.collect submissions) t files =
      .ok (params, u)) :
    ∃ copies, Stages directory supply t files copies u ∧
      params = .collect (submissions ++ copies.map StagedFile.submission) := by
  induction files generalizing t submissions with
  | nil =>
      simp only [Command.stageAll, Except.ok.injEq, Prod.mk.injEq] at staged
      obtain ⟨rfl, rfl⟩ := staged
      exact ⟨[], .nil t, by simp⟩
  | cons given files ih =>
      obtain ⟨name, source⟩ := given
      rw [Command.stageAll] at staged
      cases first : directory.stage supply t name source with
      | error failure => cases failure <;> simp [first] at staged
      | ok result =>
          obtain ⟨file, v⟩ := result
          obtain ⟨grown, copy⟩ := RequestDirectory.stage_eq_ok stands first
          simp only [first] at staged
          rw [← Params.collect_concat submissions (name, .file file)] at staged
          obtain ⟨copies, stages, rfl⟩ := ih (grown.lookup stands) staged
          refine ⟨file :: copies, .cons first stages, ?_⟩
          rw [List.append_assoc, List.map_cons, StagedFile.submission, copy.param]
          rfl

theorem grown (stages : Stages directory supply t files copies u) (stands : directory.Stands t) :
    FileTree.Extends (fun location _ => directory.Inside location) t u := by
  induction stages with
  | nil t => exact .refl t
  | cons first _ ih =>
      obtain ⟨grown, -⟩ := RequestDirectory.stage_eq_ok stands first
      exact grown.trans (ih (grown.lookup stands))

theorem areCopies (stages : Stages directory supply t files copies u) (stands : directory.Stands t) :
    List.Forall₂ (directory.IsCopy supply t u) files copies := by
  induction stages with
  | nil t => exact .nil
  | cons first later ih =>
      obtain ⟨grown, copy⟩ := RequestDirectory.stage_eq_ok stands first
      have standsThen := grown.lookup stands
      refine .cons ⟨copy.param, copy.fileName, copy.mimeType, ?_⟩ ((ih standsThen).imp ?_)
      · obtain ⟨location, content, inside, free, found, same⟩ := copy.content
        exact ⟨location, content, inside, free, (later.grown standsThen).lookup found, same⟩
      · intro given file copy
        obtain ⟨location, content, inside, free, found, same⟩ := copy.content
        exact ⟨copy.param, copy.fileName, copy.mimeType, location, content, inside,
          grown.get?_eq_none free, found, fun held read => same held (grown.read read)⟩

end Stages

end RequestUploads
