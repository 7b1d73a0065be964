import RequestUploads.Dialect

namespace RequestUploads

structure CheckOptions where
  dialect : Option Dialect
  values : List String
deriving DecidableEq, Repr

/-- The request whose uploads are extracted, as names with texts and names with paths of files,
and what is reported. -/
structure ExtractOptions where
  dialect : Option Dialect
  params : List (String × String)
  files : List (String × String)
  digest : Bool
  json : Bool
deriving DecidableEq, Repr

inductive Command
  | check (options : CheckOptions)
  | extract (options : ExtractOptions)
deriving DecidableEq, Repr

namespace Command

inductive Verb
  | extract
  | check
deriving DecidableEq, Repr

def Verb.all : List Verb := [.extract, .check]

def Verb.name : Verb → String
  | .extract => "extract"
  | .check => "check"

def helpName : String := "help"

def Verb.named? (word : String) : Option Verb := Verb.all.find? fun verb => verb.name = word

inductive Choice
  | dialect
  | param
  | file
  | digest
  | json
  | help
deriving DecidableEq, Repr

namespace Choice

def name : Choice → String
  | .dialect => "syntax"
  | .param => "param"
  | .file => "file"
  | .digest => "digest"
  | .json => "json"
  | .help => "help"

def valueName? : Choice → Option String
  | .dialect => some "SYNTAX"
  | .param => some "NAME=VALUE"
  | .file => some "NAME=PATH"
  | _ => none

def display (choice : Choice) : String :=
  match choice.valueName? with
  | some value => s!"--{choice.name} <{value}>"
  | none => s!"--{choice.name}"

end Choice

def Verb.choices : Verb → List Choice
  | .extract => [.dialect, .param, .file, .digest, .json, .help]
  | .check => [.dialect, .help]

def Verb.choice? (verb : Verb) (word : String) : Option Choice :=
  verb.choices.find? fun choice => choice.name = word

end Command

end RequestUploads
