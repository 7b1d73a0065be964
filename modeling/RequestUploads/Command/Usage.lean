import RequestUploads.Command.Basic
import RequestUploads.Text.Printable

namespace RequestUploads.Command

inductive Topic
  | all
  | verb (verb : Verb)
  | help
deriving DecidableEq, Repr

def Topic.lines : Topic → List String
  | .all => [
      "tapload: check and extract DALI/TAP UPLOAD declarations",
      "",
      "Usage: tapload <COMMAND>",
      "",
      "Commands:",
      "  extract  Build a request from parameters and files, then extract its uploads",
      "  check    Check the syntax of UPLOAD values without resolving them",
      "  help     Print this message or the help of the given subcommand(s)",
      "",
      "Options:",
      "  -h, --help  Print help"]
  | .verb .extract => [
      "Build a request from parameters and files, then extract its uploads",
      "",
      "Usage: tapload extract [OPTIONS]",
      "",
      "Options:",
      "      --syntax <SYNTAX>     Upload syntax, \"tap\" or \"dali\" (default: from config)",
      "      --param <NAME=VALUE>  Request parameter (repeatable). "
        ++ "UPLOAD declarations are given this way",
      "      --file <NAME=PATH>    File submitted inline under parameter NAME (repeatable). "
        ++ "A copy is staged",
      "      --digest              Also print size and SHA-256 of inline uploads",
      "      --json                Print the result as JSON",
      "  -h, --help                Print help"]
  | .verb .check => [
      "Check the syntax of UPLOAD values without resolving them",
      "",
      "Usage: tapload check [OPTIONS] <VALUES>...",
      "",
      "Arguments:",
      "  <VALUES>...  UPLOAD values to check",
      "",
      "Options:",
      "      --syntax <SYNTAX>  Upload syntax, \"tap\" or \"dali\" (default: from config)",
      "  -h, --help             Print help"]
  | .help => [
      "Print this message or the help of the given subcommand(s)",
      "",
      "Usage: tapload help [COMMAND]...",
      "",
      "Arguments:",
      "  [COMMAND]...  Print help for the subcommand(s)"]

def Topic.text (topic : Topic) : String := String.join (topic.lines.map (· ++ "\n"))

inductive Complaint
  | noCommand
  | unknownCommand (word : String)
  | unexpected (argument : String)
  | missingValue (choice : Choice)
  | excessValue (choice : Choice) (value : String)
  | repeated (choice : Choice)
  | badValue (choice : Choice) (value reason : String)
  | nothingToCheck
deriving DecidableEq, Repr

def Complaint.message : Complaint → String
  | .noCommand => "a command is required"
  | .unknownCommand word => s!"unrecognized subcommand '{word}'"
  | .unexpected argument => s!"unexpected argument '{argument}' found"
  | .missingValue choice => s!"a value is required for '{choice.display}' but none was supplied"
  | .excessValue choice value =>
      s!"unexpected value '{value}' for '{choice.display}' found; no more were expected"
  | .repeated choice => s!"the argument '{choice.display}' cannot be used multiple times"
  | .badValue choice value reason => s!"invalid value '{value}' for '{choice.display}': {reason}"
  | .nothingToCheck => "the following required arguments were not provided:\n  <VALUES>..."

/-- The complaint as it is printed; without any command, help is printed in its place. -/
def Complaint.text : Complaint → String
  | .noCommand => Topic.all.text
  | complaint =>
      Printable.text s!"error: {complaint.message}\n\nFor more information, try '--help'.\n"

inductive Stop
  | help (topic : Topic)
  | complaint (complaint : Complaint)
deriving DecidableEq, Repr

end RequestUploads.Command
