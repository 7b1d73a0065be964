import RequestUploads.Proofs.Checking
import RequestUploads.Proofs.Declaration.Joined
import RequestUploads.Proofs.Startup

namespace RequestUploads
open Results

/-! ## Values -/

namespace Declaration

variable {dialect : Dialect} {value : String} {parts : List (String × String)}

def HasParts (dialect : Dialect) (value : String) (parts : List (String × String)) : Prop :=
  ∃ declarations, split dialect value = .ok declarations ∧
    List.Forall₂ (fun declaration part => pair declaration = .ok part) declarations parts

def IsRefused (dialect : Dialect) (value : String) : Prop :=
  (∃ refusal, split dialect value = .error refusal) ∨
    ∃ declarations, split dialect value = .ok declarations ∧
      ∃ declaration ∈ declarations, ∃ refusal, pair declaration = .error refusal

def ofPart (part : String × String) : String := part.1 ++ "," ++ part.2

theorem isRefused_or_hasParts (dialect : Dialect) (value : String) :
    IsRefused dialect value ∨ ∃ parts, HasParts dialect value parts := by
  cases divides : split dialect value with
  | error refusal => exact .inl (.inl ⟨refusal, divides⟩)
  | ok declarations =>
      cases paired : declarations.mapM pair with
      | ok parts => exact .inr ⟨parts, declarations, divides, mapM_eq_ok_iff.1 paired⟩
      | error refusal =>
          have fails : (declarations.map pair).mapM id = .error refusal := by
            rwa [List.mapM_map]
          obtain ⟨first, member⟩ := mapM_id_fails_iff.1 ⟨refusal, fails⟩
          obtain ⟨declaration, inDeclarations, refused⟩ := List.mem_map.1 member
          exact .inl (.inr ⟨declarations, divides, declaration, inDeclarations, first, refused⟩)

theorem IsRefused.exists_unpaired {declarations : List String}
    (refused : IsRefused dialect value) (divides : split dialect value = .ok declarations) :
    ∃ declaration ∈ declarations, ∀ part, pair declaration ≠ .ok part := by
  rcases refused with ⟨refusal, undivided⟩ | ⟨others, same, declaration, member, refusal, unpaired⟩
  · rw [divides] at undivided
    cases undivided
  · rw [divides] at same
    cases same
    exact ⟨declaration, member, by simp [unpaired]⟩

theorem HasParts.not_isRefused (has : HasParts dialect value parts) :
    ¬IsRefused dialect value := by
  intro refused
  obtain ⟨declarations, divides, each⟩ := has
  obtain ⟨declaration, member, unpaired⟩ := refused.exists_unpaired divides
  obtain ⟨part, -, accepted⟩ := exists_of_mem_right each.flip member
  exact unpaired part accepted

theorem eq_ofPart_of_pair {declaration : String} {part : String × String}
    (accepted : pair declaration = .ok part) : declaration = ofPart part := by
  rw [ofPart, ← String.toList_inj]
  simpa using (pair_eq_ok_iff.1 accepted).2.2

theorem intercalate_of_split {declarations : List String}
    (divides : split dialect value = .ok declarations) : ";".intercalate declarations = value := by
  cases dialect with
  | tap =>
      obtain ⟨divided, shaped⟩ := split_tap_eq_ok_iff.1 divides
      rw [← String.toList_inj, toList_intercalate]
      exact (divided.tapDivision (List.forall_mem_map.2 shaped)).joined
  | dali =>
      rcases split_dali_eq_ok_or_error value with accepted | ⟨fault, refused⟩
      · rw [divides] at accepted
        cases accepted
        rfl
      · rw [divides] at refused
        cases refused

theorem HasParts.joined (has : HasParts dialect value parts) :
    ";".intercalate (parts.map ofPart) = value := by
  obtain ⟨declarations, divides, each⟩ := has
  have same : List.Forall₂ Eq declarations (parts.map ofPart) :=
    List.forall₂_map_right_iff.2 (each.imp fun _ _ => eq_ofPart_of_pair)
  rw [List.forall₂_eq_eq_eq] at same
  rw [← same, intercalate_of_split divides]

end Declaration

open Declaration

/-! ## Lists of values -/

namespace Command

variable {dialect : Dialect} {value : String}

def lineOf (part : String × String) : String := part.1 ++ " -> " ++ part.2

theorem checkValue_of_hasParts {parts : List (String × String)}
    (has : HasParts dialect value parts) :
    checkValue dialect value = .ok (parts.map lineOf) := by
  obtain ⟨declarations, divides, each⟩ := has
  refine checkValue_eq_ok_iff.2 ⟨declarations, divides, List.forall₂_map_right_iff.2 ?_⟩
  exact each.imp fun _ part accepted =>
    checkDeclaration_eq_ok_iff.2 ⟨part.1, part.2, accepted, rfl⟩

theorem checkValue_of_isRefused (refused : IsRefused dialect value) :
    ∃ failure, checkValue dialect value = .error failure := by
  cases checked : checkValue dialect value with
  | error failure => exact ⟨failure, rfl⟩
  | ok lines =>
      obtain ⟨declarations, divides, each⟩ := checkValue_eq_ok_iff.1 checked
      obtain ⟨declaration, member, unpaired⟩ := refused.exists_unpaired divides
      obtain ⟨line, -, listed⟩ := exists_of_mem_right each.flip member
      obtain ⟨label, target, accepted, -⟩ := checkDeclaration_eq_ok_iff.1 listed
      exact absurd accepted (unpaired (label, target))

/-- How far a check of values goes: the values before the first that is refused, each with its
labels and targets, and the values from there on. -/
structure ChecksTo (dialect : Dialect) (values accepted : List String)
    (parts : List (List (String × String))) (later : List String) : Prop where
  divided : values = accepted ++ later
  listed : List.Forall₂ (HasParts dialect) accepted parts
  stopped : ∀ value ∈ later.head?, IsRefused dialect value

theorem ChecksTo.later_eq_nil_iff {values accepted later : List String}
    {parts : List (List (String × String))}
    (checks : ChecksTo dialect values accepted parts later) :
    later = [] ↔ ∀ value ∈ values, ¬IsRefused dialect value := by
  obtain ⟨rfl, listed, stopped⟩ := checks
  constructor
  · rintro rfl value member
    rw [List.append_nil] at member
    obtain ⟨part, -, has⟩ := exists_of_mem_right listed.flip member
    exact HasParts.not_isRefused has
  · intro unrefused
    cases later with
    | nil => rfl
    | cons value later => exact absurd (stopped value rfl) (unrefused value (by simp))

theorem checksTo_checkValues (dialect : Dialect) (values : List String) :
    ∃ accepted parts later, ChecksTo dialect values accepted parts later ∧
      (checkValues dialect values).1 = parts.flatten.map lineOf ∧
      ((checkValues dialect values).2 = none ↔ later = []) := by
  induction values with
  | nil => exact ⟨[], [], [], ⟨rfl, .nil, by simp⟩, rfl, by simp [checkValues]⟩
  | cons value values ih =>
      rcases isRefused_or_hasParts dialect value with refused | ⟨here, has⟩
      · obtain ⟨failure, checked⟩ := checkValue_of_isRefused refused
        refine ⟨[], [], value :: values, ⟨rfl, .nil, by simpa using refused⟩, ?_, ?_⟩
        · simp [checkValues, checked]
        · simp [checkValues, checked]
      · have checked := checkValue_of_hasParts has
        obtain ⟨accepted, parts, later, ⟨rfl, listed, stopped⟩, lines, complete⟩ := ih
        refine ⟨value :: accepted, here :: parts, later, ⟨rfl, .cons has listed, stopped⟩, ?_, ?_⟩
        · simp [checkValues, checked, lines]
        · simpa [checkValues, checked] using complete

/-! ## Command lines -/

theorem readValues_check (given : Given) (values : List String) :
    readValues .check given .nothing values =
      .ok { given with values := given.values ++ values } := by
  induction values generalizing given with
  | nil => simp [readValues, settle]
  | cons value values ih => simp [readValues, readValue, settle, ih]

theorem readArguments_separator (given : Given) (values : List String) :
    readArguments .check given .nothing ("--" :: values) =
      .ok { given with values := given.values ++ values } := by
  have separator : Argument.ofText "--" = .separator := by decide
  rw [readArguments, if_pos separator, readValues_check]

theorem readArguments_dialect (dialect : Dialect) (arguments : List String) :
    readArguments .check {} .nothing (s!"--syntax={dialect.text}" :: arguments) =
      readArguments .check { dialect := some dialect } .nothing arguments := by
  have option : Argument.ofText s!"--syntax={dialect.text}" =
      .long "syntax" (some dialect.text) := by cases dialect <;> decide
  have choice : Verb.choice? .check "syntax" = some .dialect := by decide
  rw [readArguments, if_neg (by simp [option])]
  simp only [readArgument, option]
  simp [readLong, choice, Choice.valueName?, settle, Given.take, Dialect.ofText?_text]

/-- Any values can be checked: after two hyphens alone none of them is taken for an option. -/
theorem exists_arguments (dialect : Option Dialect) {values : List String} (given : values ≠ []) :
    ∃ arguments, parse arguments = .ok (.check ⟨dialect, values⟩) := by
  have verb : Verb.named? "check" = some .check := by decide
  cases dialect with
  | none =>
      refine ⟨"check" :: "--" :: values, ?_⟩
      simp [parse, helpName, verb, readArguments_separator, ofGiven, given]
  | some dialect =>
      refine ⟨"check" :: s!"--syntax={dialect.text}" :: "--" :: values, ?_⟩
      rw [parse, if_neg (by decide), verb]
      simp only [readArguments_dialect, readArguments_separator, ok_bind]
      simp [ofGiven, given]

end Command

namespace Program

theorem exit_completed (warning : String) (lines : List String) (failure : Option Command.Failure)
    (t : FileTree) :
    ((completed warning (lines, failure, t)).exit = 0 ↔ failure = none) ∧
      ((completed warning (lines, failure, t)).exit = 1 ↔ failure ≠ none) ∧
      (completed warning (lines, failure, t)).stdout = printLines lines := by
  cases failure with
  | none => simp [completed]
  | some failure => simp [completed]

theorem run_lists (supply : Supply) (places : Places) (t : FileTree) (config : Config)
    (loads : (loadConfig places (openLog places t).2).1 = .ok config) (dialect : Option Dialect)
    (values : List String) (given : values ≠ []) :
    let used := dialect.getD config.dialect
    (∃ arguments, Command.parse arguments = .ok (.check ⟨dialect, values⟩)) ∧
    (∃ accepted parts later, Command.ChecksTo used values accepted parts later ∧
      ∀ arguments, Command.parse arguments = .ok (.check ⟨dialect, values⟩) →
        let done := run supply places t arguments
        done.stdout = printLines (parts.flatten.map Command.lineOf) ∧
        (done.exit = 0 ↔ ∀ value ∈ values, ¬IsRefused used value) ∧
        (done.exit = 1 ↔ ∃ value ∈ values, IsRefused used value)) ∧
    ∀ value parts, HasParts used value parts → ";".intercalate (parts.map ofPart) = value := by
  intro used
  refine ⟨Command.exists_arguments dialect given, ?_, fun value parts => HasParts.joined⟩
  obtain ⟨accepted, parts, later, checks, lines, complete⟩ :=
    Command.checksTo_checkValues used values
  refine ⟨accepted, parts, later, checks, fun arguments command => ?_⟩
  rw [checks.later_eq_nil_iff] at complete
  obtain ⟨succeeds, fails, printed⟩ := exit_completed (logWarning (openLog places t).1)
    (Command.checkValues used values).1 (Command.checkValues used values).2
    (loadConfig places (openLog places t).2).2
  rw [run_of_command command loads]
  refine ⟨printed.trans (by rw [lines]), succeeds.trans complete, fails.trans ?_⟩
  rw [ne_eq, complete]
  simp

theorem run_lists_before_refused :
    let places : Places := ⟨"/c", "/s", "/tmp"⟩
    let supply : Supply := ⟨[], [], fun _ => none⟩
    let t : FileTree := ⟨[(["w"], .directory)], ["w"], []⟩
    let values := ["a,http://x/1;2;b,urn:y", "c,param:f;9,x:y", "d,x:y"]
    let done := run supply places t ("check" :: values)
    (loadConfig places (openLog places t).2).1 = .ok {} ∧ values ≠ [] ∧
      Command.parse ("check" :: values) = .ok (.check ⟨none, values⟩) ∧
      done.stdout = "a -> http://x/1;2\nb -> urn:y\n" ∧ done.exit = 1 ∧
      (∃ value ∈ values, IsRefused .tap value) ∧
      ∃ accepted parts later, Command.ChecksTo .tap values accepted parts later ∧
        done.stdout = printLines (parts.flatten.map Command.lineOf) := by
  intro places supply t values done
  have loads : (loadConfig places (openLog places t).2).1 = .ok {} := by decide +kernel
  have given : values ≠ [] := by decide
  have command : Command.parse ("check" :: values) = .ok (.check ⟨none, values⟩) := by
    decide +kernel
  have refuses : done.exit = 1 := by decide +kernel
  obtain ⟨-, ⟨accepted, parts, later, checks, prints⟩, -⟩ :=
    run_lists supply places t {} loads none values given
  obtain ⟨printed, -, fails⟩ := prints _ command
  exact ⟨loads, given, command, by decide +kernel, refuses, fails.1 refuses, accepted, parts,
    later, checks, printed⟩

end Program

end RequestUploads
