import RequestUploads.Command.Basic
import RequestUploads.Command.Failure
import RequestUploads.Declaration.Split

namespace RequestUploads

namespace Command

def checkDeclaration (declaration : String) : Except Failure String :=
  match Declaration.pair declaration with
  | .error refusal => .error (.refused refusal)
  | .ok (label, target) => .ok s!"{label} -> {target}"

def checkValue (dialect : Dialect) (value : String) : Except Failure (List String) :=
  match Declaration.split dialect value with
  | .error refusal => .error (.badValue dialect refusal)
  | .ok declarations => declarations.mapM checkDeclaration

def checkValues (dialect : Dialect) : List String → List String × Option Failure
  | [] => ([], none)
  | value :: values => match checkValue dialect value with
    | .error failure => ([], some failure)
    | .ok lines =>
        let (more, failure) := checkValues dialect values
        (lines ++ more, failure)

end Command

def CheckOptions.carryOut (options : CheckOptions) (config : Config) :
    List String × Option Command.Failure :=
  Command.checkValues (options.dialect.getD config.dialect) options.values

end RequestUploads
