import RequestUploads.Config
import RequestUploads.Proofs.Toml.Lines

namespace RequestUploads.Config
open Toml

def lines (config : Config) : List Line :=
  ⟨"syntax", _, _, by decide, readsAs_write config.dialect.text⟩ ::
    (config.stagingDir.toList.map fun directory =>
      ⟨"staging_dir", _, _, by decide, readsAs_write directory⟩) ++
    [⟨"delete_unreferenced", _, _, by decide, readsAs_flag config.deleteUnreferenced⟩]

theorem text_eq (config : Config) : config.text = config.lines.flatMap Line.text := by
  obtain ⟨dialect, stagingDir, deleteUnreferenced⟩ := config
  cases stagingDir <;> simp [text, lines, line, Line.text]

theorem keys_lines (config : Config) : (config.lines.map (·.key)).Nodup := by
  obtain ⟨dialect, stagingDir, deleteUnreferenced⟩ := config
  cases stagingDir <;> simp [lines]

theorem parse_text (config : Config) :
    Toml.parse config.text = some (config.lines.map Line.entry) := by
  rw [text_eq, parse_lines config.keys_lines]

theorem ofEntries?_lines (config : Config) :
    ofEntries? (config.lines.map Line.entry) = some config := by
  obtain ⟨dialect, stagingDir, deleteUnreferenced⟩ := config
  cases stagingDir <;>
    simp [ofEntries?, setting?, Entries.find?, lines, Line.entry, dialectOf?, textOf?, flagOf?,
      Dialect.named?_text]

theorem ofText?_text_eq_some (config : Config) : ofText? config.text = some config := by
  rw [ofText?, parse_text, Option.bind_some, ofEntries?_lines]

example : text ⟨.dali, some "C:\\\"tmp\"", false⟩ =
    "syntax = \"dali\"\nstaging_dir = 'C:\\\"tmp\"'\ndelete_unreferenced = false\n".toList := by
  decide

end RequestUploads.Config
