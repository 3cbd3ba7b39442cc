import DocReport.CommandLine.Argument
import DocReport.Text.Quoted

/-!
How the program is called: its commands, what help says about them, and what is said about calls
that are wrong.
-/
namespace DocReport.CommandLine

/-- What can be called: the program itself, and its commands. -/
inductive Callee where
  | program | generate | members
  deriving DecidableEq, Repr

namespace Callee

/-- The command with a name. -/
def ofName? (name : Text) : Option Callee :=
  match String.ofList name with
  | "generate" => some .generate
  | "members" => some .members
  | _ => none

/-- How a callee is called. -/
def call : Callee → Text
  | .program => "xmldoc-md".toList
  | .generate => "xmldoc-md generate".toList
  | .members => "xmldoc-md members".toList

/-- How a callee is called, in one line. -/
def usage (callee : Callee) : Text :=
  "Usage: ".toList ++ callee.call ++
    match callee with
    | .program => " [OPTIONS] COMMAND [ARGS]...".toList
    | .generate | .members => " [OPTIONS] [PATH]".toList

def grammar : Callee → Grammar
  | .program =>
    { spellings :=
        [{ switch := .version, names := ["--version".toList] },
         { switch := .config, names := ["--config".toList], takesValue := true },
         { switch := .help, names := ["--help".toList] }]
      mixed := false }
  | .generate =>
    { spellings :=
        [{ switch := .output, names := ["--output".toList, "-o".toList], takesValue := true },
         { switch := .dryRun, names := ["--dry-run".toList] },
         { switch := .help, names := ["--help".toList] }] }
  | .members => { spellings := [{ switch := .help, names := ["--help".toList] }] }

/-- What help says below the usage line. -/
def description : Callee → List String
  | .program =>
    ["",
     "  XML Documentation to Markdown Converter for C# projects.",
     "",
     "Options:",
     "  --version      Show the version and exit.",
     "  --config FILE  Path to a YAML configuration file.",
     "  --help         Show this message and exit.",
     "",
     "Commands:",
     "  generate  Generate a consolidated Markdown file from XML doc comments.",
     "  members   List documented members with their documentation IDs."]
  | .generate =>
    ["",
     "  Generate a consolidated Markdown file from XML doc comments.",
     "",
     "  Scans PATH for C# files (skipping build output directories), renders every",
     "  documented member and writes a single report.",
     "",
     "Options:",
     "  -o, --output PATH  Output file path.",
     "  --dry-run          Show which files would be documented.",
     "  --help             Show this message and exit."]
  | .members =>
    ["",
     "  List documented members with their documentation IDs.",
     "",
     "  Useful for checking which declarations the report will cover and how cross-",
     "  references resolve.",
     "",
     "Options:",
     "  --help  Show this message and exit."]

/-- The help for a callee, as lines. -/
def help (callee : Callee) : List Text :=
  callee.usage :: callee.description.map String.toList

end Callee

/-- The version, as the program shows it. -/
def version : Text :=
  "xmldoc-md, version 0.1.0".toList

/-- What is wrong with a call. -/
inductive UsageFault where
  | argument (fault : ArgumentFault)
  | noCommand
  | unknownCommand (name : Text)
  | noSuchSettings (path : Text)
  | settingsAreDirectory (path : Text)
  | noSuchPath (path : Text)
  | surplus (words : List Text)
  deriving DecidableEq, Repr

namespace UsageFault

/-- A fault in words. -/
def message : UsageFault → Text
  | .argument (.unknown name) => "No such option ".toList ++ Text.quoted name ++ ['.']
  | .argument (.valueMissing name) =>
    "Option ".toList ++ Text.quoted name ++ " requires an argument.".toList
  | .argument (.valueRefused name) =>
    "Option ".toList ++ Text.quoted name ++ " does not take a value.".toList
  | .noCommand => "Missing command.".toList
  | .unknownCommand name => "No such command ".toList ++ Text.quoted name ++ ['.']
  | .noSuchSettings path =>
    "Invalid value for '--config': File ".toList ++ Text.quoted path ++ " does not exist.".toList
  | .settingsAreDirectory path =>
    "Invalid value for '--config': File ".toList ++ Text.quoted path ++ " is a directory.".toList
  | .noSuchPath path =>
    "Invalid value for '[PATH]': Path ".toList ++ Text.quoted path ++ " does not exist.".toList
  | .surplus words =>
    "Got unexpected extra argument".toList ++ (if words.length = 1 then [] else ['s']) ++
      " (".toList ++ Text.join [' '] words ++ [')']

/-- Whether the usage line is shown with a fault. -/
def showsUsage : UsageFault → Bool
  | .argument (.valueMissing _) | .argument (.valueRefused _) => false
  | _ => true

/-- What is printed about a fault in the call of a callee. -/
def report (callee : Callee) (fault : UsageFault) : List Text :=
  let error := "Error: ".toList ++ fault.message
  if fault.showsUsage then
    [callee.usage, "Try '".toList ++ callee.call ++ " --help' for help.".toList, [], error]
  else [error]

end UsageFault

end DocReport.CommandLine
