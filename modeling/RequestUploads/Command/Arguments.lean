import RequestUploads.Command.Usage
import RequestUploads.Text.Pieces

/-!
# Reading the command line

The arguments are read from left to right.  The value of an option is either attached to it by an
equals sign or it is the next argument; in the second case it is looked at only when something
else has to be settled, so that a word which is no option at all is complained about first.
`Command.parse` gives the command or the reason why there is none.
-/

namespace RequestUploads.Command

/-! ## The kinds of arguments -/

inductive Argument
  | separator
  | long (name : String) (attached : Option String)
  | short (letter : Char)
  | plain
deriving DecidableEq, Repr

def Argument.ofText (argument : String) : Argument :=
  match argument.toList with
  | ['-', '-'] => .separator
  | '-' :: '-' :: word => match Text.cut? '=' word with
    | some (name, value) => .long (String.ofList name) (some (String.ofList value))
    | none => .long (String.ofList word) none
  | '-' :: letter :: _ => .short letter
  | _ => .plain

def assignment? (s : String) : Option (String × String) :=
  match Text.cut? '=' s.toList with
  | some (name, value) =>
      if name.isEmpty then none else some (String.ofList name, String.ofList value)
  | none => none

/-! ## The options of a command -/

structure Given where
  dialect : Option Dialect := none
  params : List (String × String) := []
  files : List (String × String) := []
  digest : Bool := false
  json : Bool := false
  values : List String := []
deriving DecidableEq, Repr

namespace Given

def switch (given : Given) : Choice → Except Stop Given
  | .digest =>
      if given.digest then .error (.complaint (.repeated .digest))
      else .ok { given with digest := true }
  | .json =>
      if given.json then .error (.complaint (.repeated .json))
      else .ok { given with json := true }
  | _ => .ok given

def noAssignment (choice : Choice) (value : String) : Stop :=
  .complaint (.badValue choice value s!"expected NAME=VALUE, got \"{value}\"")

def take (given : Given) (choice : Choice) (value : String) : Except Stop Given :=
  match choice with
  | .dialect =>
      if given.dialect.isSome then .error (.complaint (.repeated .dialect))
      else match Dialect.ofText? value with
        | some dialect => .ok { given with dialect := some dialect }
        | none => .error (.complaint (.badValue .dialect value (Dialect.unknownMessage value)))
  | .param => match assignment? value with
    | some pair => .ok { given with params := given.params ++ [pair] }
    | none => .error (noAssignment .param value)
  | .file => match assignment? value with
    | some pair => .ok { given with files := given.files ++ [pair] }
    | none => .error (noAssignment .file value)
  | _ => .ok given

end Given

/-- The option that was read last and is not settled: it waits for its value, or it has one that
was not looked at. -/
inductive Pending
  | nothing
  | waiting (choice : Choice)
  | holding (choice : Choice) (value : String)
deriving DecidableEq, Repr

def settle (given : Given) : Pending → Except Stop Given
  | .nothing => .ok given
  | .waiting choice => .error (.complaint (.missingValue choice))
  | .holding choice value => given.take choice value

/-! ## One argument after the other -/

def readLong (verb : Verb) (given : Given) (pending : Pending) (name : String)
    (attached : Option String) : Except Stop (Given × Pending) :=
  match verb.choice? name with
  | none => .error (.complaint (.unexpected s!"--{name}"))
  | some choice => match choice.valueName?, attached with
    | some _, some value => do
        let given ← settle given pending
        return (← given.take choice value, .nothing)
    | some _, none => do return (← settle given pending, .waiting choice)
    | none, some value => .error (.complaint (.excessValue choice value))
    | none, none => do
        let given ← settle given pending
        if choice = .help then .error (.help (.verb verb))
        else return (← given.switch choice, .nothing)

def readShort (verb : Verb) (given : Given) (pending : Pending) (letter : Char) :
    Except Stop (Given × Pending) :=
  if letter = 'h' then do
    let _ ← settle given pending
    .error (.help (.verb verb))
  else .error (.complaint (.unexpected s!"-{letter}"))

def readValue (verb : Verb) (given : Given) (pending : Pending) (value : String) :
    Except Stop (Given × Pending) :=
  match verb with
  | .extract => .error (.complaint (.unexpected value))
  | .check => do
      let given ← settle given pending
      return ({ given with values := given.values ++ [value] }, .nothing)

def readArgument (verb : Verb) (given : Given) (pending : Pending) (argument : String) :
    Except Stop (Given × Pending) :=
  match Argument.ofText argument, pending with
  | .long name attached, _ => readLong verb given pending name attached
  | .short letter, _ => readShort verb given pending letter
  | _, .waiting choice => .ok (given, .holding choice argument)
  | _, _ => readValue verb given pending argument

def readValues (verb : Verb) (given : Given) (pending : Pending) :
    List String → Except Stop Given
  | [] => settle given pending
  | value :: values => do
      let (given, pending) ← readValue verb given pending value
      readValues verb given pending values

def readArguments (verb : Verb) (given : Given) (pending : Pending) :
    List String → Except Stop Given
  | [] => settle given pending
  | argument :: arguments =>
      if Argument.ofText argument = .separator then readValues verb given pending arguments
      else do
        let (given, pending) ← readArgument verb given pending argument
        readArguments verb given pending arguments

/-! ## The whole line -/

def ofGiven (given : Given) : Verb → Except Stop Command
  | .extract => .ok (.extract
      { dialect := given.dialect, params := given.params, files := given.files,
        digest := given.digest, json := given.json })
  | .check =>
      if given.values.isEmpty then .error (.complaint .nothingToCheck)
      else .ok (.check { dialect := given.dialect, values := given.values })

def helpTopic : List String → Stop
  | [] => .help .all
  | word :: rest =>
      let topic := if word = helpName then some Topic.help else (Verb.named? word).map .verb
      match topic, rest with
      | none, _ => .complaint (.unknownCommand word)
      | some topic, [] => .help topic
      | some _, word :: _ => .complaint (.unknownCommand word)

def withoutCommand (argument : String) (rest : List String) : Stop :=
  match Argument.ofText argument with
  | .separator => match rest with
    | [] => .complaint .noCommand
    | word :: _ =>
        if word = helpName ∨ (Verb.named? word).isSome then .complaint (.unexpected word)
        else .complaint (.unknownCommand word)
  | .long name attached =>
      if name = Choice.help.name then match attached with
        | none => .help .all
        | some value => .complaint (.excessValue .help value)
      else .complaint (.unexpected s!"--{name}")
  | .short letter => if letter = 'h' then .help .all else .complaint (.unexpected s!"-{letter}")
  | .plain => .complaint (.unknownCommand argument)

def parse : List String → Except Stop Command
  | [] => .error (.complaint .noCommand)
  | argument :: rest =>
      if argument = helpName then .error (helpTopic rest)
      else match Verb.named? argument with
        | some verb => do ofGiven (← readArguments verb {} .nothing rest) verb
        | none => .error (withoutCommand argument rest)

end RequestUploads.Command
